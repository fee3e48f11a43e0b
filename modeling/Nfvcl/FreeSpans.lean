import Mathlib.Data.List.Sort
import Mathlib.Order.Basic

namespace Nfvcl.FreeSpans
set_option autoImplicit true

/-- A closed interval of positions. -/
structure Span where
  start : Nat
  stop : Nat
  deriving DecidableEq, Repr

namespace Span

def Covers (s : Span) (x : Nat) : Prop :=
  s.start ≤ x ∧ x ≤ s.stop

/-- Two spans without a common position. -/
def Apart (a b : Span) : Prop :=
  a.stop < b.start ∨ b.stop < a.start

def StartLe (a b : Span) : Prop :=
  a.start ≤ b.start

instance (s : Span) (x : Nat) : Decidable (s.Covers x) :=
  inferInstanceAs (Decidable (s.start ≤ x ∧ x ≤ s.stop))

instance (a b : Span) : Decidable (a.Apart b) :=
  inferInstanceAs (Decidable (a.stop < b.start ∨ b.stop < a.start))

instance : DecidableRel StartLe :=
  fun a b => inferInstanceAs (Decidable (a.start ≤ b.start))

instance : Std.Total StartLe := ⟨fun a b => Nat.le_total a.start b.start⟩

instance : IsTrans Span StartLe := ⟨fun _ _ _ h₁ h₂ => Nat.le_trans h₁ h₂⟩

theorem Apart.symm {a b : Span} (h : a.Apart b) : b.Apart a := Or.symm h

/-- Of two disjoint spans the one that starts first also ends first. -/
theorem Apart.stop_lt {a b : Span} (h : a.Apart b) (hs : a.start ≤ b.start)
    (hb : b.start ≤ b.stop) : a.stop < b.start := by
  rcases h with h | h
  · exact h
  · omega

end Span

/-- Spans in the order of their first position, equal ones in the order given. -/
def inOrder (spans : List Span) : List Span :=
  spans.insertionSort Span.StartLe

theorem inOrder_sorted (spans : List Span) : (inOrder spans).Pairwise Span.StartLe :=
  List.pairwise_insertionSort Span.StartLe spans

theorem mem_inOrder : s ∈ inOrder spans ↔ s ∈ spans :=
  List.mem_insertionSort Span.StartLe

/-- Inserting into a sorted list and selecting elements can be done in either order. -/
theorem filter_orderedInsert {l : List Span} (p : Span → Bool) (a : Span) (hs : l.Pairwise Span.StartLe) :
    (l.orderedInsert Span.StartLe a).filter p =
      if p a then (l.filter p).orderedInsert Span.StartLe a else l.filter p := by
  induction l with
  | nil => cases h : p a <;> simp [h]
  | cons b l ih =>
    obtain ⟨hb, hl⟩ := List.pairwise_cons.1 hs
    by_cases hab : Span.StartLe a b
    · rw [List.orderedInsert_cons_of_le _ _ hab]
      cases ha : p a with
      | false => simp [ha]
      | true =>
        have hfirst : ∀ c ∈ (b :: l).filter p, Span.StartLe a c := by
          intro c hc
          rcases List.mem_cons.1 (List.mem_filter.1 hc).1 with rfl | hc
          · exact hab
          · exact Nat.le_trans hab (hb c hc)
        rw [if_pos rfl, List.filter_cons_of_pos ha]
        cases hf : (b :: l).filter p with
        | nil => rfl
        | cons c cs =>
          rw [hf] at hfirst
          rw [List.orderedInsert_cons_of_le _ _ (hfirst c List.mem_cons_self)]
    · rw [List.orderedInsert_of_not_le _ _ hab]
      cases hpb : p b with
      | false =>
        rw [List.filter_cons_of_neg (by simp [hpb]), List.filter_cons_of_neg (by simp [hpb]), ih hl]
      | true =>
        rw [List.filter_cons_of_pos hpb, List.filter_cons_of_pos hpb, ih hl]
        cases ha : p a with
        | false => rfl
        | true => simp only [if_true, List.orderedInsert_of_not_le _ _ hab]

theorem filter_inOrder (p : Span → Bool) (spans : List Span) :
    (inOrder spans).filter p = inOrder (spans.filter p) := by
  unfold inOrder
  induction spans with
  | nil => rfl
  | cons a l ih =>
    rw [List.insertionSort_cons,
      filter_orderedInsert p a (List.pairwise_insertionSort Span.StartLe l), ih]
    cases ha : p a with
    | false => rw [List.filter_cons_of_neg (by simp [ha])]; rfl
    | true => rw [List.filter_cons_of_pos ha, List.insertionSort_cons]; rfl

/-- The spans left free below `hi` by a list of spans in order, of two positions or more,
and the span from the last of them up to `hi`. Free space resumes at `t`. -/
def gaps (hi : Nat) : Nat → List Span → List Span
  | t, [] => [⟨t, hi⟩]
  | t, r :: rs =>
    if r.start < hi then
      if t + 1 < r.start then ⟨t, r.start - 1⟩ :: gaps hi (r.stop + 1) rs
      else gaps hi (r.stop + 1) rs
    else gaps hi t rs

/-- Spans that start at the top or above it cut nothing off. -/
theorem gaps_filter (hi t : Nat) (rs : List Span) :
    gaps hi t (rs.filter (fun r => decide (r.start < hi))) = gaps hi t rs := by
  induction rs generalizing t with
  | nil => rfl
  | cons r rs ih =>
    by_cases h : r.start < hi
    · rw [List.filter_cons_of_pos (by simpa using h)]
      simp only [gaps, if_pos h, ih]
    · rw [List.filter_cons_of_neg (by simpa using h), ih]
      simp only [gaps, if_neg h]

/-- Where free space resumes after a list of spans. -/
def resume (lo : Nat) (before : List Span) : Nat :=
  match before.getLast? with
  | none => lo
  | some s => s.stop + 1

@[simp] theorem resume_nil (lo : Nat) : resume lo [] = lo := rfl

@[simp] theorem resume_concat (lo : Nat) (before : List Span) (s : Span) :
    resume lo (before ++ [s]) = s.stop + 1 := by
  simp only [resume, List.getLast?_concat]

theorem resume_cons (lo : Nat) (s : Span) (before : List Span) :
    resume lo (s :: before) = resume (s.stop + 1) before := by
  cases before with
  | nil => rfl
  | cons x before => simp only [resume, List.getLast?_cons, Option.getD_some]

/-- Where a gap followed by these spans ends. -/
def gapEnd (hi : Nat) : List Span → Nat
  | [] => hi
  | s :: _ => s.start - 1

/-- Every gap lies between two neighbours of the list. -/
theorem mem_gaps {rs : List Span} (hrs : ∀ r ∈ rs, r.start < hi) (hg : g ∈ gaps hi t rs) :
    ∃ before after, rs = before ++ after ∧ g = ⟨resume t before, gapEnd hi after⟩ := by
  induction rs generalizing t with
  | nil => exact ⟨[], [], rfl, List.mem_singleton.1 hg⟩
  | cons r rs ih =>
    have hlater : g ∈ gaps hi (r.stop + 1) rs →
        ∃ before after, r :: rs = before ++ after ∧ g = ⟨resume t before, gapEnd hi after⟩ := by
      intro h
      obtain ⟨before, after, rfl, he⟩ := ih (fun x hx => hrs x (List.mem_cons_of_mem r hx)) h
      exact ⟨r :: before, after, rfl, by rw [resume_cons]; exact he⟩
    simp only [gaps, if_pos (hrs r List.mem_cons_self)] at hg
    split at hg
    · rcases List.mem_cons.1 hg with rfl | hg
      · exact ⟨[], r :: rs, rfl, rfl⟩
      · exact hlater hg
    · exact hlater hg

/-- Going through `pools` in order, each gap of two positions or more begins at `lo` or
above and outside every pool, and no pool begins at the very top of a gap. `t` is where free
space resumes. -/
def ClearFrom (lo hi : Nat) (pools : List Span) : Nat → List Span → Prop
  | t, [] => t < hi → lo ≤ t ∧ (∀ p ∈ pools, ¬ p.Covers t) ∧ ∀ p ∈ pools, p.start ≠ hi
  | t, q :: rest =>
    (t + 1 < q.start → lo ≤ t ∧ ∀ p ∈ pools, ¬ p.Covers t) ∧
      ClearFrom lo hi pools (q.stop + 1) rest

instance decidableClearFrom (lo hi : Nat) (pools : List Span) :
    (t : Nat) → (rest : List Span) → Decidable (ClearFrom lo hi pools t rest)
  | t, [] => inferInstanceAs (Decidable (t < hi → lo ≤ t ∧ (∀ p ∈ pools, ¬ p.Covers t) ∧
      ∀ p ∈ pools, p.start ≠ hi))
  | t, q :: rest =>
    haveI := decidableClearFrom lo hi pools (q.stop + 1) rest
    inferInstanceAs (Decidable ((t + 1 < q.start → lo ≤ t ∧ ∀ p ∈ pools, ¬ p.Covers t) ∧
      ClearFrom lo hi pools (q.stop + 1) rest))

/-- The spans a search for free space between `lo` and `hi` has to avoid leave only clear
gaps below `hi`. -/
def Clear (lo hi : Nat) (pools : List Span) : Prop :=
  ClearFrom lo hi pools lo (inOrder (pools.filter (fun p => decide (p.start < hi))))

instance (lo hi : Nat) (pools : List Span) : Decidable (Clear lo hi pools) :=
  decidableClearFrom lo hi pools lo _

theorem ClearFrom.append (h : ClearFrom lo hi pools t (before ++ after)) :
    ClearFrom lo hi pools (resume t before) after := by
  induction before generalizing t with
  | nil => exact h
  | cons s before ih =>
    rw [resume_cons]
    exact ih h.2

section Safety

variable {lo hi : Nat} {pools reserved : List Span}
  (hpools : ∀ p ∈ pools, p.start ≤ p.stop)
  (hreserved : ∀ r ∈ reserved, lo ≤ r.start ∧ r.start < r.stop ∧ r.stop ≤ hi)
  (hapart : ∀ r ∈ reserved, ∀ s ∈ reserved, r ≠ s → r.Apart s)
  (hpoolsApart : ∀ r ∈ reserved, ∀ p ∈ pools, r.Apart p)
  (hclear : Clear lo hi pools)

/-- The spans that matter to the search: those that start below the top, in order. -/
def relevant (hi : Nat) (pools reserved : List Span) : List Span :=
  inOrder ((pools ++ reserved).filter (fun s => decide (s.start < hi)))

theorem mem_relevant :
    s ∈ relevant hi pools reserved ↔ (s ∈ pools ∨ s ∈ reserved) ∧ s.start < hi := by
  simp only [relevant, mem_inOrder, List.mem_filter, List.mem_append, decide_eq_true_eq]

include hreserved hpoolsApart in
theorem not_mem_pools_of_reserved (hr : r ∈ reserved) : r ∉ pools := by
  intro hp
  have h := hpoolsApart r hr r hp
  have := hreserved r hr
  unfold Span.Apart at h
  omega

include hreserved hpoolsApart in
/-- Selecting the pools from the merged order gives the order of the pools alone. -/
theorem relevant_pools :
    (relevant hi pools reserved).filter (fun s => decide (s ∈ pools)) =
      inOrder (pools.filter (fun p => decide (p.start < hi))) := by
  rw [relevant, filter_inOrder, List.filter_filter, List.filter_append]
  have hr : reserved.filter (fun s => decide (s ∈ pools) && decide (s.start < hi)) = [] := by
    rw [List.filter_eq_nil_iff]
    intro r hr
    simp [not_mem_pools_of_reserved hreserved hpoolsApart hr]
  have hp : pools.filter (fun s => decide (s ∈ pools) && decide (s.start < hi)) =
      pools.filter (fun s => decide (s.start < hi)) := by
    apply List.filter_congr
    intro s hs
    simp [hs]
  rw [hr, hp, List.append_nil]

/-- In the merged order a span starts no later than those after it. -/
theorem relevant_order (h : relevant hi pools reserved = before ++ after) (hs : s ∈ before)
    (ht : u ∈ after) : s.start ≤ u.start := by
  have hsorted := inOrder_sorted ((pools ++ reserved).filter (fun s => decide (s.start < hi)))
  change (relevant hi pools reserved).Pairwise Span.StartLe at hsorted
  rw [h, List.pairwise_append] at hsorted
  exact hsorted.2.2 s hs u ht

include hreserved hpoolsApart hclear in
/-- What the condition on the pools says about the gap after a prefix of the merged order. -/
theorem clear_after (h : relevant hi pools reserved = before ++ after) :
    ClearFrom lo hi pools (resume lo (before.filter (fun s => decide (s ∈ pools))))
      (after.filter (fun s => decide (s ∈ pools))) := by
  have hc := hclear
  rw [Clear, ← relevant_pools hreserved hpoolsApart, h, List.filter_append] at hc
  exact hc.append

include hreserved hapart hpoolsApart in
/-- Any span of the merged order that starts no later than a reserved one ends before it. -/
theorem stop_lt_of_reserved (hr : r ∈ reserved) (hs : s ∈ pools ∨ s ∈ reserved)
    (hle : s.start ≤ r.start) : s.stop < r.stop + 1 := by
  have hb := hreserved r hr
  rcases hs with hp | hres
  · have h := (hpoolsApart r hr s hp).symm.stop_lt hle (by omega)
    omega
  · by_cases he : s = r
    · subst he
      omega
    · have h := (hapart s hres r hr he).stop_lt hle (by omega)
      omega

include hpools hreserved hapart hpoolsApart hclear in
/-- A gap begins above everything before it, at `lo` or above; the last gap has no pool
beginning at its top. -/
theorem gap_start (h : relevant hi pools reserved = before ++ after)
    (hgap : resume lo before < gapEnd hi after) :
    lo ≤ resume lo before ∧ (∀ s ∈ before, s.stop < resume lo before) ∧
      (after = [] → ∀ p ∈ pools, p.start ≠ hi) := by
  have hmem {s : Span} (hs : s ∈ before) : (s ∈ pools ∨ s ∈ reserved) ∧ s.start < hi :=
    mem_relevant.1 (h ▸ List.mem_append_left after hs)
  have hc := clear_after hreserved hpoolsApart hclear h
  rcases List.eq_nil_or_concat before with rfl | ⟨front, x, rfl⟩
  · refine ⟨Nat.le_refl lo, by simp, ?_⟩
    rintro rfl
    exact (hc hgap).2.2
  · rw [List.concat_eq_append] at *
    have hx := (hmem (List.mem_append_right front List.mem_cons_self)).1
    have hle {s : Span} (hs : s ∈ front ++ [x]) : s.start ≤ x.start := by
      rcases List.mem_append.1 hs with hf | hf
      · have h' : relevant hi pools reserved = front ++ ([x] ++ after) := by
          rw [h, List.append_assoc]
        exact relevant_order h' hf (List.mem_cons_self)
      · rw [List.mem_singleton.1 hf]
    rw [resume_concat] at hgap ⊢
    by_cases hxp : x ∈ pools
    · -- free space resumes after a pool: the condition on the pools speaks of this gap
      rw [List.filter_append, List.filter_cons_of_pos (by simpa using hxp), List.filter_nil,
        resume_concat] at hc
      have hfree : lo ≤ x.stop + 1 ∧ (∀ p ∈ pools, ¬ p.Covers (x.stop + 1)) ∧
          (after = [] → ∀ p ∈ pools, p.start ≠ hi) := by
        cases hf : after.filter (fun s => decide (s ∈ pools)) with
        | nil =>
          rw [hf] at hc
          have hlt : x.stop + 1 < hi := by
            cases after with
            | nil => exact hgap
            | cons y ys =>
              have hy := (mem_relevant.1 (h ▸ List.mem_append_right _ List.mem_cons_self :
                y ∈ relevant hi pools reserved)).2
              change x.stop + 1 < y.start - 1 at hgap
              omega
          exact ⟨(hc hlt).1, (hc hlt).2.1, fun _ => (hc hlt).2.2⟩
        | cons q qs =>
          rw [hf] at hc
          have hq : q ∈ after := by
            have hq' : q ∈ after.filter (fun s => decide (s ∈ pools)) := by
              rw [hf]
              exact List.mem_cons_self
            exact (List.mem_filter.1 hq').1
          cases after with
          | nil => cases hq
          | cons y ys =>
            have hyq : y.start ≤ q.start := by
              rcases List.mem_cons.1 hq with rfl | hq
              · exact Nat.le_refl _
              · have h' : relevant hi pools reserved = (front ++ [x] ++ [y]) ++ ys := by
                  rw [h, List.append_assoc, List.append_assoc, List.append_assoc]
                  rfl
                exact relevant_order h' (List.mem_append_right _ List.mem_cons_self) hq
            change x.stop + 1 < y.start - 1 at hgap
            have hfree := hc.1 (by omega)
            exact ⟨hfree.1, hfree.2, fun he => by cases he⟩
      refine ⟨hfree.1, ?_, hfree.2.2⟩
      intro s hs
      have hsx := hle hs
      have hxx := hpools x hxp
      rcases (hmem hs).1 with hp | hres
      · have hn := hfree.2.1 s hp
        unfold Span.Covers at hn
        omega
      · have hlt := (hpoolsApart s hres x hxp).stop_lt hsx hxx
        omega
    · -- after a reserved span: it is disjoint from everything before it
      have hxr : x ∈ reserved := hx.resolve_left hxp
      have hb := hreserved x hxr
      have hbefore : ∀ s ∈ front ++ [x], s.stop < x.stop + 1 := fun s hs =>
        stop_lt_of_reserved hreserved hapart hpoolsApart hxr (hmem hs).1 (hle hs)
      refine ⟨by omega, hbefore, ?_⟩
      rintro rfl
      have hlt : resume lo ((front ++ [x]).filter (fun s => decide (s ∈ pools))) < hi := by
        rcases List.eq_nil_or_concat ((front ++ [x]).filter (fun s => decide (s ∈ pools)))
          with hnil | ⟨l, q, hl⟩
        · rw [hnil, resume_nil]
          omega
        · have hq : q ∈ front ++ [x] := by
            have hq' : q ∈ (front ++ [x]).filter (fun s => decide (s ∈ pools)) := by
              rw [hl, List.concat_eq_append]
              exact List.mem_append_right _ List.mem_cons_self
            exact (List.mem_filter.1 hq').1
          rw [hl, List.concat_eq_append, resume_concat]
          have := hbefore q hq
          have hg : x.stop + 1 < hi := hgap
          omega
      exact (hc hlt).2.2

include hpools hreserved hapart hpoolsApart hclear in
/-- Every gap of two positions or more lies between `lo` and `hi` and meets no span. -/
theorem gaps_safe (hg : g ∈ gaps hi lo (inOrder (pools ++ reserved))) (hlt : g.start < g.stop) :
    lo ≤ g.start ∧ g.stop ≤ hi ∧ ∀ s, s ∈ pools ∨ s ∈ reserved → g.Apart s := by
  rw [← gaps_filter, filter_inOrder] at hg
  change g ∈ gaps hi lo (relevant hi pools reserved) at hg
  obtain ⟨before, after, hrel, rfl⟩ := mem_gaps (fun r hr => (mem_relevant.1 hr).2) hg
  obtain ⟨hlo, hbefore, htop⟩ :=
    gap_start hpools hreserved hapart hpoolsApart hclear hrel hlt
  have hend : gapEnd hi after ≤ hi ∧ (after ≠ [] → gapEnd hi after < hi) ∧
      ∀ s ∈ after, gapEnd hi after < s.start := by
    cases after with
    | nil => exact ⟨Nat.le_refl hi, fun h => (h rfl).elim, by simp⟩
    | cons y ys =>
      have hy := (mem_relevant.1 (hrel ▸ List.mem_append_right _ List.mem_cons_self :
        y ∈ relevant hi pools reserved)).2
      have hpos : resume lo before < y.start - 1 := hlt
      refine ⟨?_, fun _ => ?_, ?_⟩
      · change y.start - 1 ≤ hi
        omega
      · change y.start - 1 < hi
        omega
      · intro s hs
        have hys : y.start ≤ s.start := by
          rcases List.mem_cons.1 hs with rfl | hs
          · exact Nat.le_refl _
          · have h' : relevant hi pools reserved = (before ++ [y]) ++ ys := by
              rw [hrel, List.append_assoc]
              rfl
            exact relevant_order h' (List.mem_append_right _ List.mem_cons_self) hs
        change y.start - 1 < s.start
        omega
  refine ⟨hlo, hend.1, ?_⟩
  intro s hs
  by_cases hsh : s.start < hi
  · rcases List.mem_append.1 (hrel ▸ mem_relevant.2 ⟨hs, hsh⟩) with hb | ha
    · exact .inr (hbefore s hb)
    · exact .inl (hend.2.2 s ha)
  · refine .inl ?_
    change gapEnd hi after < s.start
    by_cases hafter : after = []
    · have hne : s.start ≠ hi := by
        rcases hs with hp | hr
        · exact htop hafter s hp
        · have := hreserved s hr
          omega
      have := hend.1
      omega
    · have := hend.2.1 hafter
      omega

end Safety

end Nfvcl.FreeSpans
