import Mathlib.Data.List.Infix

namespace Nfvcl.TextPieces
set_option autoImplicit true

/-- The pieces of a text after the first characters, which belong to a separator, are skipped. -/
def splitAfter (sep : List Char) : Nat → List Char → List (List Char)
  | _, [] => [[]]
  | n + 1, _ :: cs => splitAfter sep n cs
  | 0, c :: cs =>
    if sep <+: c :: cs then [] :: splitAfter sep (sep.length - 1) cs
    else
      match splitAfter sep 0 cs with
      | [] => [[c]]
      | piece :: pieces => (c :: piece) :: pieces

/-- `text.split(sep)`. -/
def split (sep : List Char) (cs : List Char) : List (List Char) := splitAfter sep 0 cs

theorem splitAfter_eq (sep : List Char) (n : Nat) (cs : List Char) : splitAfter sep n cs = split sep (cs.drop n) := by
  induction cs generalizing n with
  | nil => cases n <;> rfl
  | cons c cs ih =>
    cases n with
    | zero => rfl
    | succ n =>
      rw [splitAfter, List.drop_succ_cons]
      exact ih n

/-- A separator at the beginning leaves an empty first piece. -/
theorem split_separator (hsep : sep ≠ []) (cs : List Char) : split sep (sep ++ cs) = [] :: split sep cs := by
  cases sep with
  | nil => exact absurd rfl hsep
  | cons c sep =>
    have hp : c :: sep <+: c :: (sep ++ cs) := List.prefix_append (c :: sep) cs
    rw [split, List.cons_append, splitAfter, if_pos hp, splitAfter_eq]
    congr 2
    rw [List.length_cons, Nat.add_sub_cancel, List.drop_left]

theorem split_unseparated {cs : List Char} (h : ¬ sep <:+: cs) : split sep cs = [cs] := by
  induction cs with
  | nil => rfl
  | cons c cs ih =>
    rw [split, splitAfter, if_neg (fun hp => h hp.isInfix)]
    have hrest := ih (fun hin => h (hin.trans (List.suffix_cons c cs).isInfix))
    rw [split] at hrest
    rw [hrest]

/-- The first piece ends where the first separator begins. -/
theorem split_of_infix {cs : List Char} (h : sep <:+: cs) (hsep : sep ≠ []) :
    ∃ piece pieces, split sep cs = piece :: pieces ∧ piece.length < cs.length := by
  induction cs with
  | nil => exact absurd (List.infix_nil.1 h) hsep
  | cons c cs ih =>
    by_cases hp : sep <+: c :: cs
    · exact ⟨[], _, by rw [split, splitAfter, if_pos hp], Nat.succ_pos _⟩
    · obtain ⟨piece, pieces, heq, hlt⟩ := ih ((List.infix_cons_iff.1 h).resolve_left hp)
      rw [split] at heq
      refine ⟨c :: piece, pieces, ?_, ?_⟩
      · rw [split, splitAfter, if_neg hp, heq]
      · rw [List.length_cons, List.length_cons]
        omega

/-- What follows a separator at the beginning is the second piece exactly when no other separator is in it. -/
theorem split_second_iff (hsep : sep ≠ []) (cs : List Char) : (split sep (sep ++ cs))[1]? = some cs ↔ ¬ sep <:+: cs := by
  rw [split_separator hsep]
  constructor
  · intro h hin
    obtain ⟨piece, pieces, heq, hlt⟩ := split_of_infix hin hsep
    rw [heq] at h
    cases h
    exact Nat.lt_irrefl _ hlt
  · intro h
    rw [split_unseparated h]
    rfl

/-- There is a second piece. -/
theorem split_second (hsep : sep ≠ []) (cs : List Char) : ∃ piece, (split sep (sep ++ cs))[1]? = some piece := by
  rw [split_separator hsep]
  by_cases hin : sep <:+: cs
  · obtain ⟨piece, pieces, heq, -⟩ := split_of_infix hin hsep
    exact ⟨piece, by rw [heq]; rfl⟩
  · exact ⟨cs, by rw [split_unseparated hin]; rfl⟩

end Nfvcl.TextPieces
