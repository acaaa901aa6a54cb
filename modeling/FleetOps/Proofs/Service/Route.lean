import Mathlib.Data.List.TakeWhile
import FleetOps.Proofs.Text.Form
import FleetOps.Proofs.Text.Percent
import FleetOps.Proofs.Text.Utf8
import FleetOps.Service.Route

/-! Which paths have the route to the commands of a node. A text that stands between the slashes as
it is names itself exactly if it has no character with a meaning of its own in a path.
-/

namespace FleetOps

namespace Service

/-- The bytes stand for themselves as a piece of a path: none ends the piece, the path or the part
before the fragment, and no escape is among them.
-/
structure Route.IsPlainPiece (piece : List UInt8) : Prop where
  slash : 47 ∉ piece
  question : 63 ∉ piece
  hash : 35 ∉ piece
  escape : ¬ Percent.HasEscape piece

/-- A path to the commands of a node has the piece of the node, which is all between two slashes. -/
theorem Route.ofPath?_eq_command_iff {path piece : List UInt8}
    : Route.ofPath? path = some (.command piece)
      ↔ path = Utf8.encode "/nodes/" ++ piece ++ Utf8.encode "/command" ∧ 47 ∉ piece := by
  constructor
  · intro routed
    obtain ⟨whole, together⟩ := Form.splitAt_spec 47 path
    change (∀ p ∈ pieces path, 47 ∉ p) at whole
    change [47].intercalate (pieces path) = path at together
    unfold ofPath? at routed
    generalize pieces path = split at whole together routed
    split at routed
    next first =>
      repeat' split at routed
      all_goals cases routed
    next first second =>
      repeat' split at routed
      all_goals cases routed
    next first second third =>
      repeat' split at routed
      all_goals cases routed
      next nodes _ command =>
        obtain rfl := beq_iff_eq.mp nodes
        obtain rfl := beq_iff_eq.mp command
        refine ⟨?_, whole piece (by simp)⟩
        rw [← together]
        have slashes : Utf8.encode "/nodes/" = 47 :: (fixed "nodes" ++ [47]) := rfl
        have slash : Utf8.encode "/command" = 47 :: fixed "command" := rfl
        simp [List.intercalate, List.intersperse, slashes, slash]
    next => cases routed
  · rintro ⟨rfl, whole⟩
    have split : pieces (Utf8.encode "/nodes/" ++ piece ++ Utf8.encode "/command")
        = [[], fixed "nodes", piece, fixed "command"] := by
      have slashes : Utf8.encode "/nodes/" ++ piece ++ Utf8.encode "/command"
          = [] ++ 47 :: (fixed "nodes" ++ 47 :: (piece ++ 47 :: fixed "command")) := by
        rw [List.append_assoc]
        rfl
      rw [slashes, pieces, Form.splitAt_append (by simp), Form.splitAt_append (by decide),
        Form.splitAt_append whole, Form.splitAt_of_not_mem (by decide)]
    simp only [ofPath?, split]
    rfl

/-- The path of a target, which ends before a query and a fragment. -/
def Route.pathOf (target : String) : List UInt8 :=
  (Utf8.encode target).takeWhile fun b => b != 63 && b != 35

/-- The path of a target has the route to the commands of a node. -/
def Route.LeadsToCommands (target id : String) : Prop :=
  ∃ piece, ofPath? (pathOf target) = some (.command piece) ∧ pieceText? piece = some id

/-- The text of a piece is what its escapes stand for, if that is UTF-8. -/
theorem Route.pieceText?_eq_some_iff {piece : List UInt8} {id : String}
    : pieceText? piece = some id ↔ Percent.decode piece = Utf8.encode id :=
  Utf8.decode?_eq_some_iff

/-- A path leads to the commands of one node at most. -/
theorem Route.LeadsToCommands.unique {target id other : String} (leads : LeadsToCommands target id)
    (otherwise : LeadsToCommands target other)
    : id = other := by
  obtain ⟨piece, routed, named⟩ := leads
  obtain ⟨otherPiece, otherRouted, otherNamed⟩ := otherwise
  obtain rfl : piece = otherPiece := by simpa [routed] using otherRouted
  exact Option.some.inj (named.symm.trans otherNamed)

/-- A text between the slashes names itself exactly if it stands for itself there: whatever cuts the
path short or undoes an escape leaves fewer bytes than the text has.
-/
theorem Route.leadsToCommands_iff (id : String)
    : LeadsToCommands ("/nodes/" ++ id ++ "/command") id ↔ IsPlainPiece (Utf8.encode id) := by
  have target : Utf8.encode ("/nodes/" ++ id ++ "/command")
      = Utf8.encode "/nodes/" ++ Utf8.encode id ++ Utf8.encode "/command" := by
    simp only [Utf8.encode, String.toList_append, List.flatMap_append]
  simp only [LeadsToCommands, ofPath?_eq_command_iff, pieceText?_eq_some_iff, pathOf, target]
  generalize Utf8.encode id = bytes
  have opening : ∀ b ∈ Utf8.encode "/nodes/", b ≠ 63 ∧ b ≠ 35 := by decide +kernel
  have closing : ∀ b ∈ Utf8.encode "/command", b ≠ 63 ∧ b ≠ 35 := by decide +kernel
  generalize Utf8.encode "/nodes/" = before at opening ⊢
  generalize Utf8.encode "/command" = after at closing ⊢
  constructor
  · -- The path is a prefix of the target, and undoing escapes makes no piece longer.
    rintro ⟨piece, ⟨path, slash⟩, named⟩
    have cut : _ <+: before ++ bytes ++ after := List.takeWhile_prefix fun b => b != 63 && b != 35
    have undone := Percent.length_decode_le piece
    have length : (before ++ bytes ++ after).length ≤ (before ++ piece ++ after).length := by
      rw [← named]
      simp only [List.length_append]
      omega
    have whole := cut.eq_of_length_le (path ▸ length)
    obtain rfl : bytes = piece := by simpa using whole.symm.trans path
    have kept (b : UInt8) (among : b ∈ bytes) : b ≠ 63 ∧ b ≠ 35 := by
      simpa using List.takeWhile_eq_self_iff.mp whole b (by simp [among])
    exact {
      slash := slash
      question := fun among => (kept 63 among).1 rfl
      hash := fun among => (kept 35 among).2 rfl
      escape := Percent.not_hasEscape_of_decode_eq named
    }
  · rintro ⟨slash, question, hash, escape⟩
    refine ⟨bytes, ⟨?_, slash⟩, Percent.decode_of_plain escape⟩
    rw [List.takeWhile_eq_self_iff]
    intro b among
    simp only [List.mem_append] at among
    have kept : b ≠ 63 ∧ b ≠ 35 := by
      rcases among with (among | among) | among
      · exact opening b among
      · exact ⟨fun same => question (same ▸ among), fun same => hash (same ▸ among)⟩
      · exact closing b among
    simpa using kept

end Service

end FleetOps
