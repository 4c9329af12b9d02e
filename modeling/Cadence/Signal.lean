import Cadence.Failure
import Cadence.Text.Quoted

/-!
# Signals

What a producer tells the decoupler of its subscription.  A signal carries no value: values go to
the buffer, and the signal only says that there are some.
-/

set_option autoImplicit false

namespace Cadence

inductive Signal
  | value
  | readConnection (connected : Bool)
  | writeConnection (connected : Bool)
  | readException (fault : ProducerFault)
  | writeException (fault : ProducerFault)
  | writeSucceeded
  | writeFailed (fault : ProducerFault)
  deriving DecidableEq, Repr

/-- The fault as the log shows it: its cause and the quoted reason. -/
def ProducerFault.text : ProducerFault → String
  | readFailed reason => "ReadFailed(" ++ Text.quoted reason ++ ")"
  | writeFailed reason => "WriteFailed(" ++ Text.quoted reason ++ ")"
  | disconnected reason => "Disconnected(" ++ Text.quoted reason ++ ")"

namespace Signal

/-- The signal reports a failure of a producer's function. -/
def isFault : Signal → Bool
  | readException _ => true
  | writeException _ => true
  | writeFailed _ => true
  | _ => false

def text : Signal → String
  | value => "Value"
  | readConnection connected => "ReadConnection(" ++ toString connected ++ ")"
  | writeConnection connected => "WriteConnection(" ++ toString connected ++ ")"
  | readException fault => "ReadException(" ++ fault.text ++ ")"
  | writeException fault => "WriteException(" ++ fault.text ++ ")"
  | writeSucceeded => "WriteSucceeded"
  | writeFailed fault => "WriteFailed(" ++ fault.text ++ ")"

end Signal

end Cadence
