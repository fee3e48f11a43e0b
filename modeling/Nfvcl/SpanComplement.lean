import Nfvcl.FreeSpans

namespace Nfvcl.FreeSpans
set_option autoImplicit true

/-- A position between `lo` and `hi` outside every span. -/
def Free (lo hi : Nat) (spans : List Span) (x : Nat) : Prop :=
  lo ≤ x ∧ x ≤ hi ∧ ∀ s ∈ spans, ¬ s.Covers x

instance (lo hi : Nat) (spans : List Span) (x : Nat) : Decidable (Free lo hi spans x) :=
  inferInstanceAs (Decidable (lo ≤ x ∧ x ≤ hi ∧ ∀ s ∈ spans, ¬ s.Covers x))

/-- Going through the spans in order: where two free positions or more follow the last span, it
is the one reaching furthest; where a single one follows it, another span reaches further; and
no span starts at `hi` when free space is left there. `t` is where free space resumes and `u`
the lowest position above everything so far. -/
def ExactFrom (hi : Nat) (spans : List Span) : Nat → Nat → List Span → Prop
  | t, u, [] => t ≤ hi → t = u ∧ ∀ s ∈ spans, s.start ≠ hi
  | t, u, q :: rest =>
    (t + 1 < q.start → t = u) ∧ (t + 1 = q.start → t ≠ u) ∧
      ExactFrom hi spans (q.stop + 1) (max u (q.stop + 1)) rest

instance decidableExactFrom (hi : Nat) (spans : List Span) :
    (t u : Nat) → (rest : List Span) → Decidable (ExactFrom hi spans t u rest)
  | t, u, [] => inferInstanceAs (Decidable (t ≤ hi → t = u ∧ ∀ s ∈ spans, s.start ≠ hi))
  | t, u, q :: rest =>
    haveI := decidableExactFrom hi spans (q.stop + 1) (max u (q.stop + 1)) rest
    inferInstanceAs (Decidable ((t + 1 < q.start → t = u) ∧ (t + 1 = q.start → t ≠ u) ∧
      ExactFrom hi spans (q.stop + 1) (max u (q.stop + 1)) rest))

def Exact (lo hi : Nat) (spans : List Span) : Prop :=
  ExactFrom hi spans lo lo (inOrder (spans.filter (fun s => decide (s.start < hi))))

instance (lo hi : Nat) (spans : List Span) : Decidable (Exact lo hi spans) :=
  decidableExactFrom hi spans lo lo _

theorem lt_start_of_mem_gaps {rs : List Span} (hb : b < t)
    (hrs : ∀ r ∈ rs, b ≤ r.start ∧ r.start ≤ r.stop) (hg : g ∈ gaps hi t rs) : b < g.start := by
  induction rs generalizing t with
  | nil =>
    rw [List.mem_singleton.1 hg]
    exact hb
  | cons r rs ih =>
    have hr := hrs r List.mem_cons_self
    have hrest : ∀ s ∈ rs, b ≤ s.start ∧ s.start ≤ s.stop :=
      fun s hs => hrs s (List.mem_cons_of_mem r hs)
    simp only [gaps] at hg
    split at hg
    · split at hg
      · rcases List.mem_cons.1 hg with rfl | hg
        · exact hb
        · exact ih (by omega) hrest hg
      · exact ih (by omega) hrest hg
    · exact ih hb hrest hg

/-- The gaps after a span of the order start above the start of that span. -/
theorem start_lt_of_mem_gaps {rs : List Span} (hsorted : (r :: rs).Pairwise Span.StartLe)
    (hvalid : ∀ s ∈ r :: rs, s.start ≤ s.stop) (hg : g ∈ gaps hi (r.stop + 1) rs) :
    r.start < g.start := by
  have hr := hvalid r List.mem_cons_self
  apply lt_start_of_mem_gaps (by omega) _ hg
  intro s hs
  exact ⟨(List.pairwise_cons.1 hsorted).1 s hs, hvalid s (List.mem_cons_of_mem r hs)⟩

theorem gaps_apart {rs : List Span} (hsorted : rs.Pairwise Span.StartLe)
    (hvalid : ∀ r ∈ rs, r.start ≤ r.stop) : (gaps hi t rs).Pairwise Span.Apart := by
  induction rs generalizing t with
  | nil => exact List.pairwise_singleton _ _
  | cons r rs ih =>
    have hrest : ∀ {t}, (gaps hi t rs).Pairwise Span.Apart :=
      ih (List.pairwise_cons.1 hsorted).2 (fun s hs => hvalid s (List.mem_cons_of_mem r hs))
    simp only [gaps]
    split
    · split
      · refine List.pairwise_cons.2 ⟨?_, hrest⟩
        intro g hg
        have hlt := start_lt_of_mem_gaps hsorted hvalid hg
        exact .inl (show r.start - 1 < g.start by omega)
      · exact hrest
    · exact hrest

/-- Positions above everything visited so far that are free up to `hi`. -/
def FreeAbove (hi : Nat) (spans : List Span) (u : Nat) (rest : List Span) (x : Nat) : Prop :=
  u ≤ x ∧ x ≤ hi ∧ (x = hi → ∀ s ∈ spans, s.start ≠ hi) ∧ ∀ r ∈ rest, ¬ r.Covers x

section Walk

variable {hi : Nat} {spans : List Span}

/-- Below the next span only the gap in front of it has positions. -/
theorem gaps_below (hsorted : (r :: rs).Pairwise Span.StartLe) (hvalid : ∀ s ∈ r :: rs, s.start ≤ s.stop)
    (hr : r.start < hi) (hx : x < r.start) :
    (∃ g ∈ gaps hi t (r :: rs), g.Covers x) ↔ t + 1 < r.start ∧ t ≤ x := by
  have hlater : ¬ ∃ g ∈ gaps hi (r.stop + 1) rs, g.Covers x := by
    rintro ⟨g, hg, hc⟩
    have hlt := start_lt_of_mem_gaps hsorted hvalid hg
    have hle := hc.1
    omega
  simp only [gaps, if_pos hr]
  split
  · next hgap =>
    rw [List.exists_mem_cons_iff]
    constructor
    · rintro (hc | hc)
      · exact ⟨hgap, hc.1⟩
      · exact absurd hc hlater
    · intro h
      exact .inl ⟨h.2, show x ≤ r.start - 1 by omega⟩
  · next hgap => exact ⟨fun h => absurd h hlater, fun h => absurd h.1 hgap⟩

/-- From the next span on only the gaps after it have positions. -/
theorem gaps_above (hr : r.start < hi) (hx : r.start ≤ x) :
    (∃ g ∈ gaps hi t (r :: rs), g.Covers x) ↔ ∃ g ∈ gaps hi (r.stop + 1) rs, g.Covers x := by
  simp only [gaps, if_pos hr]
  split
  · next hgap =>
    rw [List.exists_mem_cons_iff]
    constructor
    · rintro (hc | hc)
      · have hle : x ≤ r.start - 1 := hc.2
        omega
      · exact hc
    · exact .inr
  · exact Iff.rfl

theorem freeAbove_below (hsorted : (r :: rs).Pairwise Span.StartLe) (hr : r.start < hi) (hx : x < r.start) :
    FreeAbove hi spans u (r :: rs) x ↔ u ≤ x := by
  constructor
  · exact fun h => h.1
  · intro h
    refine ⟨h, by omega, fun he => by omega, ?_⟩
    intro s hs hc
    have hle : s.start ≤ x := hc.1
    rcases List.mem_cons.1 hs with rfl | hs
    · omega
    · have hrs : r.start ≤ s.start := (List.pairwise_cons.1 hsorted).1 s hs
      omega

theorem freeAbove_above (hx : r.start ≤ x) :
    FreeAbove hi spans u (r :: rs) x ↔ FreeAbove hi spans (max u (r.stop + 1)) rs x := by
  have hcov : ¬ r.Covers x ↔ r.stop + 1 ≤ x := by
    unfold Span.Covers
    omega
  unfold FreeAbove
  rw [List.forall_mem_cons, hcov, Nat.max_le]
  constructor
  · rintro ⟨hu, hhi, htop, hr, hrs⟩
    exact ⟨⟨hu, hr⟩, hhi, htop, hrs⟩
  · rintro ⟨⟨hu, hr⟩, hhi, htop, hrs⟩
    exact ⟨hu, hhi, htop, hr, hrs⟩

/-- The gaps hold exactly the free positions when, and only when, every step is exact. -/
theorem gaps_exact_iff {rs : List Span} (hsorted : rs.Pairwise Span.StartLe)
    (hvalid : ∀ r ∈ rs, r.start ≤ r.stop) (hrs : ∀ r ∈ rs, r.start < hi) (htu : t ≤ u) :
    (∀ x, (∃ g ∈ gaps hi t rs, g.Covers x) ↔ FreeAbove hi spans u rs x) ↔
      ExactFrom hi spans t u rs := by
  induction rs generalizing t u with
  | nil =>
    have hgap : ∀ x, (∃ g ∈ gaps hi t [], g.Covers x) ↔ t ≤ x ∧ x ≤ hi := by
      intro x
      simp [gaps, Span.Covers]
    simp only [hgap, FreeAbove, ExactFrom, List.not_mem_nil, false_implies, implies_true, and_true]
    constructor
    · intro h ht
      have hu := ((h t).1 ⟨Nat.le_refl t, ht⟩).1
      exact ⟨by omega, ((h hi).1 ⟨ht, Nat.le_refl hi⟩).2.2 rfl⟩
    · intro h x
      constructor
      · rintro ⟨ht, hx⟩
        have hu := h (by omega)
        exact ⟨by omega, hx, fun _ => hu.2⟩
      · rintro ⟨hu, hx, -⟩
        exact ⟨by omega, hx⟩
  | cons r rs ih =>
    have hr := hrs r List.mem_cons_self
    have hle := hvalid r List.mem_cons_self
    have ih := ih (t := r.stop + 1) (u := max u (r.stop + 1)) (List.pairwise_cons.1 hsorted).2
      (fun s hs => hvalid s (List.mem_cons_of_mem r hs)) (fun s hs => hrs s (List.mem_cons_of_mem r hs))
      (le_max_right _ _)
    have hstep : (∀ x, x < r.start → (t + 1 < r.start ∧ t ≤ x ↔ u ≤ x)) ↔
        (t + 1 < r.start → t = u) ∧ (t + 1 = r.start → t ≠ u) := by
      constructor
      · intro h
        refine ⟨fun hgap => ?_, fun hone heq => ?_⟩
        · have := (h t (by omega)).1 ⟨hgap, Nat.le_refl t⟩
          omega
        · have := (h t (by omega)).2 (by omega)
          omega
      · rintro ⟨hgap, hone⟩ x hx
        constructor
        · rintro ⟨h, htx⟩
          have := hgap h
          omega
        · intro hux
          refine ⟨?_, by omega⟩
          by_contra hnot
          exact hone (by omega) (by omega)
    rw [ExactFrom, ← and_assoc, ← hstep, ← ih]
    constructor
    · intro h
      refine ⟨fun x hx => ?_, fun x => ?_⟩
      · rw [← gaps_below hsorted hvalid hr hx, ← freeAbove_below hsorted hr hx]
        exact h x
      · by_cases hx : r.start ≤ x
        · rw [← gaps_above (t := t) hr hx, ← freeAbove_above hx]
          exact h x
        · constructor
          · rintro ⟨g, hg, hc⟩
            have hlt := start_lt_of_mem_gaps hsorted hvalid hg
            have hgx := hc.1
            omega
          · intro hfree
            have := hfree.1
            omega
    · rintro ⟨hbelow, hrest⟩ x
      by_cases hx : r.start ≤ x
      · rw [gaps_above hr hx, freeAbove_above hx]
        exact hrest x
      · rw [gaps_below hsorted hvalid hr (by omega), freeAbove_below hsorted hr (by omega)]
        exact hbelow x (by omega)

end Walk

/-- When the gaps between spans of any order are their complement. -/
theorem gaps_complement_iff {spans : List Span} (hvalid : ∀ s ∈ spans, s.start ≤ s.stop) :
    (∀ x, (∃ g ∈ gaps hi lo (inOrder spans), g.Covers x) ↔ Free lo hi spans x) ↔ Exact lo hi spans := by
  have hmem {s : Span} (hs : s ∈ inOrder (spans.filter (fun s => decide (s.start < hi)))) :
      s ∈ spans ∧ s.start < hi := by
    rw [mem_inOrder, List.mem_filter, decide_eq_true_eq] at hs
    exact hs
  have hfree : ∀ x, Free lo hi spans x ↔
      FreeAbove hi spans lo (inOrder (spans.filter (fun s => decide (s.start < hi)))) x := by
    intro x
    constructor
    · rintro ⟨hlo, hhi, hout⟩
      refine ⟨hlo, hhi, ?_, fun s hs => hout s (hmem hs).1⟩
      rintro rfl s hs he
      have := hvalid s hs
      exact hout s hs ⟨by omega, by omega⟩
    · rintro ⟨hlo, hhi, htop, hout⟩
      refine ⟨hlo, hhi, ?_⟩
      intro s hs hc
      by_cases hlt : s.start < hi
      · refine hout s ?_ hc
        rw [mem_inOrder, List.mem_filter, decide_eq_true_eq]
        exact ⟨hs, hlt⟩
      · have hle := hc.1
        exact htop (by omega) s hs (by omega)
  rw [Exact, ← gaps_exact_iff (inOrder_sorted _) (fun s hs => hvalid s (hmem hs).1)
    (fun s hs => (hmem hs).2) (Nat.le_refl lo), ← filter_inOrder, gaps_filter, filter_inOrder]
  simp only [hfree]

/-- A run of `n` free positions. -/
def FreeRun (lo hi : Nat) (spans : List Span) (n : Nat) : Prop :=
  ∃ s, ∀ x, s ≤ x → x < s + n → Free lo hi spans x

/-- Right after a span that ends early enough below `lo` come more than `n` positions up to `hi`,
outside every span that starts below `hi`. -/
def OpensEarly (lo hi : Nat) (spans : List Span) (n : Nat) : Prop :=
  ∃ r ∈ spans, r.stop + 1 < lo ∧ r.stop + 1 + n ≤ hi ∧
    ∀ s ∈ spans, s.start < hi → s.stop ≤ r.stop ∨ r.stop + 1 + n < s.start

instance (lo hi : Nat) (spans : List Span) (n : Nat) : Decidable (OpensEarly lo hi spans n) :=
  inferInstanceAs (Decidable (∃ r ∈ spans, r.stop + 1 < lo ∧ r.stop + 1 + n ≤ hi ∧
    ∀ s ∈ spans, s.start < hi → s.stop ≤ r.stop ∨ r.stop + 1 + n < s.start))

/-- A gap of two positions or more, or the last one, is never left out. -/
theorem mem_gaps_of_append {rs : List Span} (hrs : ∀ r ∈ rs, r.start < hi) (he : rs = before ++ after)
    (hgap : resume t before < gapEnd hi after) : ⟨resume t before, gapEnd hi after⟩ ∈ gaps hi t rs := by
  induction before generalizing t rs with
  | nil =>
    cases he
    cases after with
    | nil => exact List.mem_singleton_self _
    | cons y ys =>
      have hlt : t < y.start - 1 := hgap
      rw [List.nil_append, gaps, if_pos (hrs y List.mem_cons_self), if_pos (by omega)]
      exact List.mem_cons_self
  | cons r before ih =>
    subst he
    rw [resume_cons] at hgap ⊢
    have hmem := ih (fun s hs => hrs s (List.mem_cons_of_mem r hs)) rfl hgap
    rw [List.cons_append, gaps, if_pos (hrs r List.mem_cons_self)]
    split
    · exact List.mem_cons_of_mem _ hmem
    · exact hmem

section Disjoint

variable {lo hi : Nat} {spans : List Span} (hvalid : ∀ s ∈ spans, s.start ≤ s.stop)
  (hapart : spans.Pairwise Span.Apart)

/-- The spans that start below the top, in order. -/
def below (hi : Nat) (spans : List Span) : List Span :=
  inOrder (spans.filter (fun s => decide (s.start < hi)))

theorem mem_below : s ∈ below hi spans ↔ s ∈ spans ∧ s.start < hi := by
  rw [below, mem_inOrder, List.mem_filter, decide_eq_true_eq]

include hvalid hapart in
/-- Of disjoint spans in order each ends before the next starts. -/
theorem below_separated : (below hi spans).Pairwise (fun a b => a.stop < b.start) := by
  have hperm : (below hi spans).Perm (spans.filter (fun s => decide (s.start < hi))) :=
    List.perm_insertionSort Span.StartLe _
  have hpair : (below hi spans).Pairwise Span.Apart :=
    (hperm.pairwise_iff Span.Apart.symm).2 (hapart.sublist List.filter_sublist)
  have hsorted : (below hi spans).Pairwise Span.StartLe := inOrder_sorted _
  refine List.Pairwise.imp_of_mem ?_ (hpair.and hsorted)
  rintro a b - hb ⟨h, hle⟩
  exact h.stop_lt hle (hvalid b (mem_below.1 hb).1)

include hvalid hapart in
/-- What lies around a gap of two positions or more between disjoint spans. -/
theorem below_gap (h : below hi spans = before ++ after) (hgap : resume t before < gapEnd hi after) :
    gapEnd hi after ≤ hi ∧ (∀ s ∈ before, s.stop < resume t before) ∧ ∀ s ∈ after, gapEnd hi after < s.start := by
  have hsep : (below hi spans).Pairwise _ := below_separated hvalid hapart
  rw [h, List.pairwise_append] at hsep
  have hmem {s : Span} (hs : s ∈ before ∨ s ∈ after) : s.start ≤ s.stop ∧ s.start < hi := by
    have hs' := mem_below.1 (h ▸ List.mem_append.2 hs)
    exact ⟨hvalid s hs'.1, hs'.2⟩
  refine ⟨?_, ?_, ?_⟩
  · cases after with
    | nil => exact Nat.le_refl hi
    | cons y ys =>
      have hy := (hmem (.inr List.mem_cons_self)).2
      change y.start - 1 ≤ hi
      omega
  · rcases List.eq_nil_or_concat before with rfl | ⟨front, x, rfl⟩
    · simp
    · rw [List.concat_eq_append] at *
      rw [resume_concat]
      intro s hs
      rcases List.mem_append.1 hs with hs | hs
      · have hlt := (List.pairwise_append.1 hsep.1).2.2 s hs x List.mem_cons_self
        have hx := (hmem (.inl (List.mem_append_right front List.mem_cons_self))).1
        omega
      · rw [List.mem_singleton.1 hs]
        exact Nat.lt_succ_self _
  · cases after with
    | nil => simp
    | cons y ys =>
      have hlt : resume t before < y.start - 1 := hgap
      intro s hs
      change y.start - 1 < s.start
      rcases List.mem_cons.1 hs with rfl | hs
      · omega
      · have hys := (List.pairwise_cons.1 hsep.2.1).1 s hs
        have hy := (hmem (.inr List.mem_cons_self)).1
        omega

include hvalid hapart in
/-- A gap of more than `n` positions from `lo` on has a free run of `n`; so where there is none,
a longer gap starts below `lo`. -/
theorem long_gap_iff (hn : 1 ≤ n) (hfull : ¬ FreeRun lo hi spans n) :
    (∃ g ∈ gaps hi lo (inOrder spans), g.start + n ≤ g.stop) ↔ OpensEarly lo hi spans n := by
  have hgaps : gaps hi lo (inOrder spans) = gaps hi lo (below hi spans) := by
    rw [below, ← filter_inOrder, gaps_filter]
  rw [hgaps]
  constructor
  · rintro ⟨g, hg, hlen⟩
    obtain ⟨before, after, hsplit, rfl⟩ := mem_gaps (fun r hr => (mem_below.1 hr).2) hg
    change resume lo before + n ≤ gapEnd hi after at hlen
    obtain ⟨hend, hbefore, hafter⟩ :=
      below_gap hvalid hapart hsplit (show resume lo before < gapEnd hi after by omega)
    have hlow : resume lo before < lo := by
      by_contra hge
      apply hfull
      refine ⟨resume lo before, fun x hx hxn => ⟨by omega, by omega, ?_⟩⟩
      intro s hs hc
      have hsx : s.start ≤ x := hc.1
      have hxs : x ≤ s.stop := hc.2
      rcases List.mem_append.1 (hsplit ▸ mem_below.2 ⟨hs, by omega⟩) with hb | ha
      · have := hbefore s hb
        omega
      · have := hafter s ha
        omega
    rcases List.eq_nil_or_concat before with rfl | ⟨front, r, rfl⟩
    · exact absurd hlow (Nat.lt_irrefl lo)
    · rw [List.concat_eq_append] at *
      rw [resume_concat] at *
      refine ⟨r, ?_, hlow, by omega, ?_⟩
      · exact (mem_below.1 (hsplit ▸ List.mem_append_left after
          (List.mem_append_right front List.mem_cons_self))).1
      · intro s hs hlt
        rcases List.mem_append.1 (hsplit ▸ mem_below.2 ⟨hs, hlt⟩) with hb | ha
        · have := hbefore s hb
          omega
        · have := hafter s ha
          omega
  · rintro ⟨r, hr, hlow, hend, hclear⟩
    have hle := hvalid r hr
    obtain ⟨front, after, hsplit⟩ := List.append_of_mem (mem_below.2 ⟨hr, (by omega : r.start < hi)⟩)
    have hsplit' : below hi spans = (front ++ [r]) ++ after := by
      rw [hsplit, List.append_assoc]
      rfl
    have hlong : r.stop + 1 + n ≤ gapEnd hi after := by
      cases after with
      | nil => exact hend
      | cons y ys =>
        have hy := mem_below.1 (hsplit ▸ List.mem_append_right front (List.mem_cons_of_mem r List.mem_cons_self))
        have hsep : (below hi spans).Pairwise _ := below_separated hvalid hapart
        rw [hsplit, List.pairwise_append] at hsep
        have hry := (List.pairwise_cons.1 hsep.2.1).1 y List.mem_cons_self
        have hyv := hvalid y hy.1
        change r.stop + 1 + n ≤ y.start - 1
        rcases hclear y hy.1 hy.2 with hc | hc
        · omega
        · omega
    refine ⟨⟨resume lo (front ++ [r]), gapEnd hi after⟩, ?_, ?_⟩
    · apply mem_gaps_of_append (fun s hs => (mem_below.1 hs).2) hsplit'
      rw [resume_concat]
      omega
    · change resume lo (front ++ [r]) + n ≤ gapEnd hi after
      rw [resume_concat]
      exact hlong

end Disjoint

end Nfvcl.FreeSpans
