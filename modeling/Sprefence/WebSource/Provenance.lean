import Sprefence.WebSource.Framing

/-! Where the effects of `web_source` come from. However the stream of commands is cut into
reads, the program does nothing that was not asked for: its effects belong to different
commands, in their order. -/

namespace Sprefence.WebSource

open CBytes Runs
open Server (Command)

/-- What a command can bring about, with a read that may be cut anywhere. An `on` that is
followed by another command in its read is stored with the first byte of that. -/
def Causes : Command → List Effect → Prop
  | .camera, es => es = [.ended] ∨ ∃ mem usedLen, es = [.picture (sendPicture mem usedLen)] ∨
      es = [.picture (sendPicture mem usedLen), .ended]
  | .set ltp lbp rtp rbp, es => es = [.ended] ∨ ∃ m ≤ 16, es = [.hazardIni
      (((Command.set ltp lbp rtp rbp).bytes.drop 4).take m ++ List.replicate (16 - m) 0)]
  | .on, es => es = [.ended] ∨
      ∃ file ∈ [ascii "on" ++ [0], ascii "onc", ascii "ons", ascii "ono"], es = [.switchIni file]
  | .off, _ => False

section Piece

variable {c : Command} {cs : List Command} {b : List UInt8}
  (hb : b <+: c.bytes ++ cs.flatMap Command.bytes) (hlen : b.length ≤ 256)
include hb hlen

end Piece

/-! ## Whole runs -/

/-- A command with its position, and what it has brought about. -/
abbrev Caused := (Nat × Command) × List Effect

/-- The part of the log that is due to a command. -/
def Caused.log (p : Caused) : List (Nat × Effect) := p.2.map (p.1.1, ·)

/-- Whatever the reads add to the log is due to commands among `asked`, each at most once and in
their order. -/
def Explained (env : Nat → Env) (s : State) (reads : List (List UInt8))
    (asked : List (Nat × Command)) : Prop :=
  ∃ parts : List Caused, (parts.map Prod.fst).Sublist asked ∧
    (run (stepAt env) s reads).log = s.log ++ parts.flatMap Caused.log ∧
    ∀ p ∈ parts, Causes p.1.2 p.2

section Explained

variable {env : Nat → Env} {s : State} {b : List UInt8} {reads : List (List UInt8)}
  {asked : List (Nat × Command)}

theorem Explained.mono (h : Explained env s reads asked) {asked' : List (Nat × Command)}
    (hsub : asked.Sublist asked') : Explained env s reads asked' := by
  obtain ⟨parts, hparts, hlog, hcauses⟩ := h
  exact ⟨parts, hparts.trans hsub, hlog, hcauses⟩

end Explained

end Sprefence.WebSource
