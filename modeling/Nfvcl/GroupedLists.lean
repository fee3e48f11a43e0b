import Mathlib.Data.Set.Insert
import Nfvcl.ListUpdates

namespace Nfvcl.GroupedLists
set_option autoImplicit true
open ListUpdates

/-- Records with a key and a list of values. -/
structure Grouping (α κ β : Type) where
  key : α → κ
  values : α → List β
  withValues : α → List β → α
  key_withValues : ∀ a vs, key (withValues a vs) = key a
  values_withValues : ∀ a vs, values (withValues a vs) = vs
  withValues_withValues : ∀ a vs ws, withValues (withValues a vs) ws = withValues a ws

variable {α κ β : Type} [DecidableEq α] [DecidableEq κ] [DecidableEq β] (G : Grouping α κ β)

/-! ### Operations -/

/-- `if new not in items: items.append(new)`, for a record without values. -/
def create (new : α) (items : List α) : List α := appendNew items (G.withValues new [])

def addValue (b : β) (a : α) : α := G.withValues a (appendNew (G.values a) b)

/-- The first record with the key gets the value; without one, a record is created and the function calls itself.
The result says whether there was one. -/
def add (new : α) (b : β) : Nat → List α → Option (List α × Bool)
  | 0, _ => none
  | depth + 1, items =>
    match updateFirst (fun a => decide (G.key a = G.key new)) (addValue G b) items with
    | some items' => some (items', true)
    | none => (add new b depth (create G new items)).map (fun r => (r.1, false))

/-- Remove the first record with the key, as `items.remove(item)` does. -/
def destroy (k : κ) (items : List α) : List α × Bool :=
  match items.find? (fun a => decide (G.key a = k)) with
  | some a => (items.erase a, true)
  | none => (items, false)

/-- Remove a value, and its record when no value is left. -/
def remove (k : κ) (b : β) (items : List α) : List α × Bool :=
  match items.find? (fun a => decide (G.key a = k ∧ b ∈ G.values a)) with
  | some a =>
    let items' := (updateFirst (fun a => decide (G.key a = k ∧ b ∈ G.values a)) (fun a => G.withValues a ((G.values a).erase b)) items).getD items
    (if ((G.values a).erase b).length = 0 then (destroy G k items').1 else items', true)
  | none => (items, false)

/-! ### What the records hold -/

structure WellFormed (items : List α) : Prop where
  keys : (items.map G.key).Nodup
  values : ∀ a ∈ items, (G.values a).Nodup
  nonempty : ∀ a ∈ items, G.values a ≠ []

/-- The pairs of a key and a value under it. -/
def content (items : List α) : Set (κ × β) := {p | ∃ a ∈ items, G.key a = p.1 ∧ p.2 ∈ G.values a}

section Splitting

variable {G}
variable {items xs ys : List α} {a new : α} {b : β} {k : κ}

omit [DecidableEq α] [DecidableEq κ] [DecidableEq β]

theorem wellFormed_nil : WellFormed G [] := ⟨List.nodup_nil, fun _ h => (nomatch h), fun _ h => (nomatch h)⟩

theorem content_nil : content G [] = ∅ := Set.eq_empty_of_forall_notMem (fun _ ⟨_, h, _⟩ => nomatch h)

theorem mem_content_split : p ∈ content G (xs ++ a :: ys) ↔ p ∈ content G (xs ++ ys) ∨ (G.key a = p.1 ∧ p.2 ∈ G.values a) := by
  constructor
  · rintro ⟨c, hc, hkey⟩
    rcases List.mem_append.1 hc with hc | hc
    · exact .inl ⟨c, List.mem_append_left _ hc, hkey⟩
    · rcases List.mem_cons.1 hc with rfl | hc
      · exact .inr hkey
      · exact .inl ⟨c, List.mem_append_right _ hc, hkey⟩
  · rintro (⟨c, hc, hkey⟩ | hkey)
    · refine ⟨c, ?_, hkey⟩
      rcases List.mem_append.1 hc with hc | hc
      · exact List.mem_append_left _ hc
      · exact List.mem_append_right _ (List.mem_cons_of_mem _ hc)
    · exact ⟨a, List.mem_append_right _ List.mem_cons_self, hkey⟩

/-- The record with a key, apart from the records before and after it. -/
theorem WellFormed.split (h : WellFormed G items) (ha : a ∈ items) :
    ∃ xs ys, items = xs ++ a :: ys ∧ ∀ c ∈ xs ++ ys, G.key c ≠ G.key a := by
  obtain ⟨xs, ys, rfl⟩ := List.append_of_mem ha
  refine ⟨xs, ys, rfl, fun c hc hkey => ?_⟩
  have hnodup : (G.key a :: (xs ++ ys).map G.key).Nodup := by
    have hmiddle : (xs ++ a :: ys).Perm (a :: (xs ++ ys)) := List.perm_middle
    have hperm := hmiddle.map G.key
    exact hperm.nodup_iff.1 h.keys
  exact (List.nodup_cons.1 hnodup).1 (hkey ▸ List.mem_map_of_mem hc)

theorem WellFormed.replace (h : WellFormed G (xs ++ a :: ys)) (hvalues : vs.Nodup) (hne : vs ≠ []) :
    WellFormed G (xs ++ G.withValues a vs :: ys) := by
  have hcases : ∀ c ∈ xs ++ G.withValues a vs :: ys, c ∈ xs ++ a :: ys ∨ c = G.withValues a vs := by
    intro c hc
    rcases List.mem_append.1 hc with hc | hc
    · exact .inl (List.mem_append_left _ hc)
    · rcases List.mem_cons.1 hc with rfl | hc
      · exact .inr rfl
      · exact .inl (List.mem_append_right _ (List.mem_cons_of_mem _ hc))
  refine ⟨?_, ?_, ?_⟩
  · have hkeys := h.keys
    rw [List.map_append, List.map_cons] at hkeys ⊢
    rwa [G.key_withValues]
  · intro c hc
    rcases hcases c hc with hc | rfl
    · exact h.values c hc
    · rw [G.values_withValues]
      exact hvalues
  · intro c hc
    rcases hcases c hc with hc | rfl
    · exact h.nonempty c hc
    · rw [G.values_withValues]
      exact hne

theorem WellFormed.drop (h : WellFormed G (xs ++ a :: ys)) : WellFormed G (xs ++ ys) := by
  have hsub : (xs ++ ys).Sublist (xs ++ a :: ys) := List.Sublist.append_left (List.sublist_cons_self a ys) xs
  exact ⟨h.keys.sublist (hsub.map _), fun c hc => h.values c (hsub.subset hc), fun c hc => h.nonempty c (hsub.subset hc)⟩

end Splitting

section Specs

variable {G}
variable {items xs ys : List α} {a new : α} {b : β} {k : κ}

omit [DecidableEq α] [DecidableEq κ] [DecidableEq β] in
theorem updateFirst_middle {test : α → Bool} {change : α → α} (hxs : ∀ x ∈ xs, test x = false) (ha : test a = true) :
    updateFirst test change (xs ++ a :: ys) = some (xs ++ change a :: ys) := by
  induction xs with
  | nil => rw [List.nil_append, updateFirst, if_pos ha, List.nil_append]
  | cons x xs ih =>
    rw [List.cons_append, updateFirst, if_neg (by rw [hxs x List.mem_cons_self]; exact Bool.false_ne_true),
      ih (fun y hy => hxs y (List.mem_cons_of_mem x hy))]
    rfl

omit [DecidableEq α] [DecidableEq κ] [DecidableEq β] in
theorem find?_middle {test : α → Bool} (hxs : ∀ x ∈ xs, test x = false) (ha : test a = true) : (xs ++ a :: ys).find? test = some a := by
  have hnone : xs.find? test = none := List.find?_eq_none.2 (fun x hx => by rw [hxs x hx]; exact Bool.false_ne_true)
  rw [List.find?_append, hnone, Option.none_or, List.find?_cons_of_pos ha]

omit [DecidableEq κ] [DecidableEq β] in
theorem erase_middle (h : ∀ c ∈ xs, G.key c ≠ G.key a) : (xs ++ a :: ys).erase a = xs ++ ys := by
  rw [List.erase_append_right _ (fun hmem => h a hmem rfl), List.erase_cons_head]

omit [DecidableEq α] [DecidableEq κ] in
theorem mem_appendNew {vs : List β} {v : β} : v ∈ appendNew vs b ↔ v = b ∨ v ∈ vs := by
  unfold appendNew
  split
  · rename_i hb
    exact ⟨.inr, fun h => h.elim (fun he => he ▸ hb) id⟩
  · rw [List.mem_append, List.mem_singleton, or_comm]

omit [DecidableEq α] [DecidableEq κ] in
theorem nodup_appendNew {vs : List β} (h : vs.Nodup) : (appendNew vs b).Nodup := by
  unfold appendNew
  split
  · exact h
  · rename_i hb
    rw [List.nodup_append]
    refine ⟨h, List.nodup_cons.2 ⟨List.not_mem_nil, List.nodup_nil⟩, ?_⟩
    intro v hv w hw he
    rw [he, List.mem_singleton.1 hw] at hv
    exact hb hv

omit [DecidableEq α] [DecidableEq κ] in
theorem appendNew_ne_nil {vs : List β} : appendNew vs b ≠ [] := by
  intro h
  have hmem : b ∈ appendNew vs b := mem_appendNew.2 (.inl rfl)
  rw [h] at hmem
  cases hmem

/-- One call more than the first is enough. -/
theorem add_eq (new : α) (b : β) (depth : Nat) (items : List α) : add G new b (depth + 2) items =
    some (growFirst (fun a => decide (G.key a = G.key new)) (addValue G b) (G.withValues new [b]) items,
      items.any (fun a => decide (G.key a = G.key new))) := by
  rw [add]
  cases hfirst : updateFirst (fun a => decide (G.key a = G.key new)) (addValue G b) items with
  | some items' =>
    have hany : items.any (fun a => decide (G.key a = G.key new)) = true := by
      by_contra hno
      have hnone : updateFirst (fun a => decide (G.key a = G.key new)) (addValue G b) items = none := by
        refine updateFirst_eq_none.2 (fun a ha => Bool.eq_false_iff.2 (fun htest => hno ?_))
        exact List.any_eq_true.2 ⟨a, ha, htest⟩
      rw [hfirst] at hnone
      cases hnone
    rw [growFirst_of_some hfirst, hany]
  | none =>
    have htest := updateFirst_eq_none.1 hfirst
    have hkey : G.key (G.withValues new []) = G.key new := G.key_withValues new []
    have hcreate : create G new items = items ++ [G.withValues new []] := by
      refine appendNew_of_not_mem (fun hmem => ?_)
      exact of_decide_eq_false (htest _ hmem) hkey
    have hany : items.any (fun a => decide (G.key a = G.key new)) = false := List.any_eq_false.2 (fun a ha => by rw [htest a ha]; exact Bool.false_ne_true)
    simp only
    rw [add, hcreate, updateFirst_append hfirst (decide_eq_true hkey), addValue, G.values_withValues, G.withValues_withValues,
      growFirst_of_none htest, hany]
    rfl

omit [DecidableEq α] in
/-- The value is added, and nothing else changes. -/
theorem growFirst_spec (h : WellFormed G items) (new : α) (b : β) :
    WellFormed G (growFirst (fun a => decide (G.key a = G.key new)) (addValue G b) (G.withValues new [b]) items) ∧
    content G (growFirst (fun a => decide (G.key a = G.key new)) (addValue G b) (G.withValues new [b]) items) =
      insert (G.key new, b) (content G items) := by
  by_cases hhas : ∃ a ∈ items, G.key a = G.key new
  · obtain ⟨a, ha, hkey⟩ := hhas
    obtain ⟨xs, ys, rfl, hothers⟩ := h.split ha
    have hgrow : growFirst (fun a => decide (G.key a = G.key new)) (addValue G b) (G.withValues new [b]) (xs ++ a :: ys) =
        xs ++ addValue G b a :: ys := growFirst_append
      (fun x hx => decide_eq_false (fun he => hothers x (List.mem_append_left _ hx) (he.trans hkey.symm))) (decide_eq_true hkey)
    rw [hgrow]
    refine ⟨h.replace (nodup_appendNew (h.values a ha)) appendNew_ne_nil, ?_⟩
    ext p
    rw [addValue, mem_content_split, Set.mem_insert_iff, mem_content_split, G.key_withValues, G.values_withValues, mem_appendNew]
    constructor
    · rintro (hother | ⟨hp, hb | hin⟩)
      · exact .inr (.inl hother)
      · exact .inl (Prod.ext (hp.symm.trans hkey) hb)
      · exact .inr (.inr ⟨hp, hin⟩)
    · rintro (rfl | hother | ⟨hp, hin⟩)
      · exact .inr ⟨hkey, .inl rfl⟩
      · exact .inl hother
      · exact .inr ⟨hp, .inr hin⟩
  · rw [growFirst_of_none (fun a ha => decide_eq_false (fun he => hhas ⟨a, ha, he⟩))]
    refine ⟨⟨?_, ?_, ?_⟩, ?_⟩
    · rw [List.map_append, List.nodup_append]
      refine ⟨h.keys, List.nodup_cons.2 ⟨List.not_mem_nil, List.nodup_nil⟩, ?_⟩
      intro c hc d hd he
      obtain ⟨a, ha, rfl⟩ := List.mem_map.1 hc
      rw [List.mem_singleton.1 hd, G.key_withValues] at he
      exact hhas ⟨a, ha, he⟩
    · intro c hc
      rcases List.mem_append.1 hc with hc | hc
      · exact h.values c hc
      · rw [List.mem_singleton.1 hc, G.values_withValues]
        exact List.nodup_cons.2 ⟨List.not_mem_nil, List.nodup_nil⟩
    · intro c hc
      rcases List.mem_append.1 hc with hc | hc
      · exact h.nonempty c hc
      · rw [List.mem_singleton.1 hc, G.values_withValues]
        exact List.cons_ne_nil _ _
    · ext p
      rw [mem_content_split, Set.mem_insert_iff, List.append_nil, G.key_withValues, G.values_withValues, List.mem_singleton]
      constructor
      · rintro (hother | ⟨hp, hb⟩)
        · exact .inr hother
        · exact .inl (Prod.ext hp.symm hb)
      · rintro (rfl | hother)
        · exact .inr ⟨rfl, rfl⟩
        · exact .inl hother

theorem add_spec (h : WellFormed G items) (new : α) (b : β) (depth : Nat) : ∃ items' had, add G new b (depth + 2) items = some (items', had) ∧
    (had = true ↔ ∃ v, (G.key new, v) ∈ content G items) ∧ WellFormed G items' ∧
    content G items' = insert (G.key new, b) (content G items) := by
  refine ⟨_, _, add_eq new b depth items, ?_, growFirst_spec h new b⟩
  rw [List.any_eq_true]
  constructor
  · rintro ⟨a, ha, hkey⟩
    obtain ⟨v, hv⟩ := List.exists_mem_of_ne_nil _ (h.nonempty a ha)
    exact ⟨v, a, ha, of_decide_eq_true hkey, hv⟩
  · rintro ⟨v, a, ha, hkey, -⟩
    exact ⟨a, ha, decide_eq_true hkey⟩

omit [DecidableEq β] in
/-- A record is removed with everything under its key. -/
theorem destroy_spec (h : WellFormed G items) (k : κ) : ((destroy G k items).2 = true ↔ ∃ v, (k, v) ∈ content G items) ∧
    WellFormed G (destroy G k items).1 ∧ content G (destroy G k items).1 = {p ∈ content G items | p.1 ≠ k} := by
  unfold destroy
  cases hfind : items.find? (fun a => decide (G.key a = k)) with
  | none =>
    have hno : ∀ a ∈ items, G.key a ≠ k := fun a ha he => List.find?_eq_none.1 hfind a ha (decide_eq_true he)
    refine ⟨⟨fun hfalse => (nomatch hfalse), ?_⟩, h, ?_⟩
    · rintro ⟨v, a, ha, hkey, -⟩
      exact absurd hkey (hno a ha)
    · ext p
      refine ⟨fun hp => ⟨hp, fun he => ?_⟩, fun hp => hp.1⟩
      obtain ⟨a, ha, hkey, -⟩ := hp
      exact hno a ha (hkey.trans he)
  | some a =>
    have ha : a ∈ items := List.mem_of_find?_eq_some hfind
    have hfound := List.find?_some hfind
    have hkey : G.key a = k := of_decide_eq_true hfound
    obtain ⟨v, hv⟩ := List.exists_mem_of_ne_nil _ (h.nonempty a ha)
    obtain ⟨xs, ys, rfl, hothers⟩ := h.split ha
    have herase : (xs ++ a :: ys).erase a = xs ++ ys := erase_middle (fun c hc => hothers c (List.mem_append_left _ hc))
    simp only [herase]
    refine ⟨⟨fun _ => ⟨v, a, ha, hkey, hv⟩, fun _ => trivial⟩, h.drop, ?_⟩
    ext p
    rw [Set.mem_sep_iff, mem_content_split]
    constructor
    · intro hp
      refine ⟨.inl hp, ?_⟩
      obtain ⟨c, hc, hck, -⟩ := hp
      rw [← hck, ← hkey]
      exact hothers c hc
    · rintro ⟨hp | ⟨hp, -⟩, hne⟩
      · exact hp
      · exact absurd (hp.symm.trans hkey) hne

/-- A value is removed, and its record with the last one. -/
theorem remove_spec (h : WellFormed G items) (k : κ) (b : β) : ((remove G k b items).2 = true ↔ (k, b) ∈ content G items) ∧
    WellFormed G (remove G k b items).1 ∧ content G (remove G k b items).1 = content G items \ {(k, b)} := by
  unfold remove
  cases hfind : items.find? (fun a => decide (G.key a = k ∧ b ∈ G.values a)) with
  | none =>
    have hno : (k, b) ∉ content G items := by
      rintro ⟨a, ha, hkey, hb⟩
      exact List.find?_eq_none.1 hfind a ha (decide_eq_true ⟨hkey, hb⟩)
    exact ⟨⟨fun hfalse => (nomatch hfalse), fun hin => absurd hin hno⟩, h, (Set.sdiff_singleton_eq_self hno).symm⟩
  | some a =>
    have ha : a ∈ items := List.mem_of_find?_eq_some hfind
    have hfound := List.find?_some hfind
    obtain ⟨hkey, hb⟩ : G.key a = k ∧ b ∈ G.values a := of_decide_eq_true hfound
    have hvalues := h.values a ha
    obtain ⟨xs, ys, rfl, hothers⟩ := h.split ha
    have hupdate : updateFirst (fun a => decide (G.key a = k ∧ b ∈ G.values a)) (fun a => G.withValues a ((G.values a).erase b))
        (xs ++ a :: ys) = some (xs ++ G.withValues a ((G.values a).erase b) :: ys) := updateFirst_middle
      (fun x hx => decide_eq_false (fun he => hothers x (List.mem_append_left _ hx) (he.1.trans hkey.symm)))
      (decide_eq_true ⟨hkey, hb⟩)
    simp only [hupdate, Option.getD_some]
    refine ⟨⟨fun _ => ⟨a, ha, hkey, hb⟩, fun _ => trivial⟩, ?_⟩
    have hrest : ∀ p, p ∈ content G (xs ++ ys) → p ≠ (k, b) := by
      rintro p ⟨c, hc, hck, -⟩ rfl
      exact hothers c hc (hck.trans hkey.symm)
    by_cases hlast : ((G.values a).erase b).length = 0
    · rw [if_pos hlast]
      have hnil : (G.values a).erase b = [] := List.eq_nil_of_length_eq_zero hlast
      have hkey' : G.key (G.withValues a []) = k := (G.key_withValues a []).trans hkey
      have hothers' : ∀ c ∈ xs, G.key c ≠ G.key (G.withValues a []) := by
        intro c hc
        rw [G.key_withValues]
        exact hothers c (List.mem_append_left _ hc)
      have hfind' : (xs ++ G.withValues a [] :: ys).find? (fun a => decide (G.key a = k)) = some (G.withValues a []) := find?_middle
        (fun x hx => decide_eq_false (fun he => hothers' x hx (he.trans hkey'.symm))) (decide_eq_true hkey')
      have hdestroy : (destroy G k (xs ++ G.withValues a [] :: ys)).1 = xs ++ ys := by
        rw [destroy, hfind']
        exact erase_middle hothers'
      rw [hnil, hdestroy]
      refine ⟨h.drop, ?_⟩
      ext p
      rw [Set.mem_sdiff, Set.mem_singleton_iff, mem_content_split]
      constructor
      · exact fun hp => ⟨.inl hp, hrest p hp⟩
      · rintro ⟨hp | ⟨hp, hin⟩, hne⟩
        · exact hp
        · have hkept : p.2 ∈ (G.values a).erase b :=
            hvalues.mem_erase_iff.2 ⟨fun he => hne (Prod.ext (hp.symm.trans hkey) he), hin⟩
          rw [hnil] at hkept
          cases hkept
    · rw [if_neg hlast]
      refine ⟨h.replace (hvalues.erase b) (fun hnil => hlast (by rw [hnil]; rfl)), ?_⟩
      ext p
      rw [Set.mem_sdiff, Set.mem_singleton_iff, mem_content_split, mem_content_split, G.key_withValues, G.values_withValues, hvalues.mem_erase_iff]
      constructor
      · rintro (hp | ⟨hp, hne, hin⟩)
        · exact ⟨.inl hp, hrest p hp⟩
        · exact ⟨.inr ⟨hp, hin⟩, fun he => hne (congrArg Prod.snd he)⟩
      · rintro ⟨hp | ⟨hp, hin⟩, hne⟩
        · exact .inl hp
        · exact .inr ⟨hp, fun he => hne (Prod.ext (hp.symm.trans hkey) he), hin⟩

end Specs

end Nfvcl.GroupedLists
