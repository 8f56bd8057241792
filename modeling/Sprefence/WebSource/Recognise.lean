import Sprefence.Server.Commands
import Sprefence.WebSource.Main

/-! What `web_source` recognises in the commands of the server, or in a piece
of the stream that begins with one of them or inside one. -/

namespace Sprefence.WebSource

open CBytes
open Server (Command)

/-- What the commands are recognised as. -/
def kind : Command → Recognised
  | .camera => .camera
  | .set _ _ _ _ => .set
  | .on => .on
  | .off => .nothing

def Recognised.literal : Recognised → List UInt8
  | .camera => ascii "camera"
  | .set => ascii "set"
  | .on => ascii "on"
  | .nothing => []

theorem literal_piece_iff {w b l : List UInt8} (hb : b <+: l) :
    w <+: b ↔ w <+: l ∧ w.length ≤ b.length := by
  constructor
  · intro h
    exact ⟨h.trans hb, h.length_le⟩
  · rintro ⟨h, hle⟩
    exact List.prefix_of_prefix_length_le h hb hle

/-- A piece that begins with a command is recognised as that command if it has
the whole literal, and as nothing otherwise. -/
theorem recognise_piece (c : Command) (rest b : List UInt8) (hb : b <+: c.bytes ++ rest) :
    recognise b = if (kind c).literal.length ≤ b.length then kind c else .nothing := by
  have hiff := fun w => literal_piece_iff (w := w) hb
  simp only [recognise, hiff]
  cases c with
  | camera => simp [Command.bytes, kind, Recognised.literal, ascii, List.cons_prefix_cons]
  | set => simp [Command.bytes, kind, Recognised.literal, ascii, List.cons_prefix_cons]
  | on => simp [Command.bytes, kind, Recognised.literal, ascii, List.cons_prefix_cons]
  | off => simp [Command.bytes, kind, Recognised.literal, ascii, List.cons_prefix_cons]

theorem recognise_bytes (c : Command) : recognise c.bytes = kind c := by
  rw [recognise_piece c [] c.bytes (by simp), if_pos]
  cases c with
  | set a b c d => exact le_trans (show 3 ≤ 23 by decide) (Command.length_set a b c d)
  | camera | on | off => decide

end Sprefence.WebSource
