import Sprefence.Lib.Decimal

/-! The text that `WebServer.Run` writes to the serial port, one `port.Write`
a request, without a delimiter. Numbers are printed with a decimal point. -/

namespace Sprefence.Server

open CBytes Decimal

inductive Command
  | camera
  | set (ltp lbp rtp rbp : Rat)
  | on
  | off
  deriving DecidableEq

/-- The argument of `port.Write`. -/
def Command.bytes : Command → List UInt8
  | .camera => ascii "camera"
  | .set ltp lbp rtp rbp =>
    ascii "set " ++ fixed2 ltp ++ ascii " " ++ fixed2 lbp ++ ascii " " ++ fixed2 rtp ++
      ascii " " ++ fixed2 rbp
  | .on => ascii "on"
  | .off => ascii "off"

theorem Command.length_set (a b c d : Rat) : 23 ≤ (Command.set a b c d).bytes.length := by
  have ha := four_le_length_fixed2 a
  have hb := four_le_length_fixed2 b
  have hc := four_le_length_fixed2 c
  have hd := four_le_length_fixed2 d
  have hset : (ascii "set ").length = 4 := rfl
  have hspace : (ascii " ").length = 1 := rfl
  simp only [bytes, List.length_append]
  omega

theorem Command.bytes_pos (c : Command) : 0 < c.bytes.length := by
  cases c with
  | set a b c d => exact lt_of_lt_of_le (show 0 < 23 by decide) (Command.length_set a b c d)
  | camera | on | off => decide

/-- The branch of `/switch`: what is written for a body whose `type` is `type`.
Only a request that writes a command is answered OK. -/
def switchRequest (type : Option String) : Option Command :=
  if type = some "on" then some .on
  else if type = some "off" then some .off
  else none

end Sprefence.Server
