import Mathlib.Data.List.Basic
import Nfvcl.BlueprintWorker

namespace Nfvcl
set_option autoImplicit true
open Effects

/-- The status that answers an operation. -/
def CallbackStatus.of : Except PyError PyValue → CallbackStatus
  | .ok _ => .ok
  | .error _ => .error

namespace QueuedMessage

/-- The statuses the callback of a message is called with, once the message is handled. -/
def replies (q : QueuedMessage) : List (Option CallbackStatus) :=
  if q.outcome.started ≠ none then []
  else
    match q.message.messageType, q.outcome.operation with
    | .stop, .ok _ => [none]
    | .stop, .error _ => []
    | _, .ok _ => if q.outcome.ended = none then [some .ok] else [some .ok, some .error]
    | _, .error _ => [some .error]

/-- The loop goes on after the message. -/
def Continues (q : QueuedMessage) : Prop :=
  q.message.messageType ≠ .stop ∧ q.outcome.started = none ∧
    match q.outcome.operation with
    | .ok _ => q.outcome.ended = none ∨ q.outcome.failed = none
    | .error _ => q.outcome.failed = none

instance (q : QueuedMessage) : Decidable q.Continues := by
  unfold Continues
  cases q.outcome.operation <;> exact inferInstance

end QueuedMessage

namespace BlueprintWorker

/-- The callback of message `n` was called with these statuses, and nothing else was called. -/
def Answers (n : Nat) (replies : List (Option CallbackStatus)) (w w' : BlueprintWorker) : Prop :=
  ∃ args : List CallbackArg, args.map CallbackArg.status? = replies ∧
    w'.answers = w.answers ++ args.map (fun arg => (n, arg))

theorem Answers.none (h : w'.answers = w.answers) : Answers n [] w w' :=
  ⟨[], rfl, by rw [h, List.map_nil, List.append_nil]⟩

theorem Answers.one (h : w'.answers = w.answers ++ [(n, arg)]) (hr : [arg.status?] = replies) : Answers n replies w w' :=
  ⟨[arg], hr, h⟩

theorem Answers.two (h : w'.answers = (w.answers ++ [(n, arg)]) ++ [(n, arg')])
    (hr : [arg.status?, arg'.status?] = replies) : Answers n replies w w' :=
  ⟨[arg, arg'], hr, by rw [h, List.append_assoc]; rfl⟩

theorem recordCall_run (m : WorkerMessage) (w : BlueprintWorker) :
    ∃ history, (recordCall m).run w = .ok () { w with day2CallHistory := history } := by
  unfold recordCall
  split
  · exact ⟨_, rfl⟩
  · exact ⟨_, rfl⟩

/-- The `try` of the creation and day2 cases, once the function to call is known. -/
def attempt (n : Nat) (o : MessageOutcome) (result : PyValue → Option PyValue) : WorkerM Unit :=
  tryCatch (do
    let value ← perform o.operation
    answerOk n (result value)
    setStatus {}
    outcome o.ended) (onError n o)

theorem attempt_answers (n : Nat) (o : MessageOutcome) (result : PyValue → Option PyValue) (w : BlueprintWorker) :
    Answers n (match o.operation with
        | .ok _ => if o.ended = none then [some .ok] else [some .ok, some .error]
        | .error _ => [some .error]) w (finalState ((attempt n o result).run w)) ∧
    ((match o.operation with
        | .ok _ => o.ended = none ∨ o.failed = none
        | .error _ => o.failed = none) ↔ returned ((attempt n o result).run w) = some ()) := by
  obtain ⟨started, operation, ended, failed⟩ := o
  cases operation with
  | ok value =>
    cases ended with
    | none => exact ⟨.one rfl rfl, iff_of_true (.inl rfl) rfl⟩
    | some e =>
      cases failed with
      | none => exact ⟨.two rfl rfl, iff_of_true (.inr rfl) rfl⟩
      | some e' => exact ⟨.two rfl rfl, iff_of_false (by simp) (by intro h; cases h)⟩
  | error e =>
    cases failed with
    | none => exact ⟨.one rfl rfl, iff_of_true rfl rfl⟩
    | some e' => exact ⟨.one rfl rfl, iff_of_false (by simp) (by intro h; cases h)⟩

/-- The save at the end of an iteration calls nobody. -/
theorem then_save (m : WorkerM Unit) (w : BlueprintWorker) :
    (finalState (((do m; toDb) >>= fun _ => pure true : WorkerM Bool).run w)).answers = (finalState (m.run w)).answers ∧
      (returned (((do m; toDb) >>= fun _ => pure true : WorkerM Bool).run w) = some true ↔
        returned (m.run w) = some ()) := by
  simp only [EStateM.run_bind]
  cases m.run w with
  | ok u w' => exact ⟨rfl, iff_of_true rfl rfl⟩
  | error e w' => exact ⟨rfl, iff_of_false (by intro h; cases h) (by intro h; cases h)⟩

/-- A creation or a day2 call, from the `try` on. -/
theorem tried_answers (type : WorkerMessageType) (htype : type ≠ .stop) (path : String) (message : Option String)
    (o : MessageOutcome) (hstarted : o.started = none) (result : PyValue → Option PyValue)
    (hrun : (handle n ⟨⟨type, path, message⟩, o⟩).run w =
      ((do attempt n o result; toDb) >>= fun _ => pure true : WorkerM Bool).run w₁) (hw : w₁.answers = w.answers) :
    Answers n (QueuedMessage.replies ⟨⟨type, path, message⟩, o⟩) w (finalState ((handle n ⟨⟨type, path, message⟩, o⟩).run w)) ∧
      (QueuedMessage.Continues ⟨⟨type, path, message⟩, o⟩ ↔
        returned ((handle n ⟨⟨type, path, message⟩, o⟩).run w) = some true) := by
  obtain ⟨⟨args, hreplies, hanswers⟩, hreturned⟩ := attempt_answers n o result w₁
  obtain ⟨hsame, hsaved⟩ := then_save (attempt n o result) w₁
  rw [hrun]
  constructor
  · refine ⟨args, ?_, ?_⟩
    · rw [hreplies]
      unfold QueuedMessage.replies
      rw [if_neg (not_not.2 hstarted)]
      cases type with
      | stop => exact (htype rfl).elim
      | _ => cases o.operation <;> rfl
    · rw [hsame, hanswers, hw]
  · rw [hsaved, ← hreturned]
    constructor
    · exact fun h => h.2.2
    · exact fun h => ⟨htype, hstarted, h⟩

/-- The status of a worker that runs a day2 call. -/
def runningDay2 (m : WorkerMessage) (w : BlueprintWorker) : BlueprintNGStatus :=
  { currentOperation := .runningDay2Op, detail := s!"Calling DAY2 function {m.path} on blueprint {w.blueprintId}" }

theorem handleDay2_run (n : Nat) (m : WorkerMessage) (o : MessageOutcome) (hstarted : o.started = none)
    (w : BlueprintWorker) :
    ∃ w₁ : BlueprintWorker, w₁.answers = w.answers ∧ (handleDay2 n m o >>= fun _ => pure true : WorkerM Bool).run w =
      ((do attempt n o some; toDb) >>= fun _ => pure true : WorkerM Bool).run w₁ := by
  obtain ⟨started, operation, ended, failed⟩ := o
  cases hstarted
  obtain ⟨history, hrecord⟩ := recordCall_run m { w with status := runningDay2 m w, saved := some (runningDay2 m w) }
  refine ⟨{ w with status := runningDay2 m w, saved := some (runningDay2 m w), day2CallHistory := history }, rfl, ?_⟩
  have htried := run_tryCatch_ok (recordCall m) (fun _ => do
    let result ← perform operation
    answerOk n (some result)
    setStatus {}
    outcome ended) (onError n ⟨none, operation, ended, failed⟩) hrecord
  change EStateM.run ((do
    tryCatch (recordCall m >>= fun _ => do
      let result ← perform operation
      answerOk n (some result)
      setStatus {}
      outcome ended) (onError n ⟨none, operation, ended, failed⟩)
    toDb) >>= fun _ => pure true : WorkerM Bool)
    { w with status := runningDay2 m w, saved := some (runningDay2 m w) } = _
  rw [EStateM.run_bind, EStateM.run_bind, htried, EStateM.run_bind, EStateM.run_bind]
  rfl

theorem handle_answers (n : Nat) (q : QueuedMessage) (w : BlueprintWorker) :
    Answers n q.replies w (finalState ((handle n q).run w)) ∧
      (q.Continues ↔ returned ((handle n q).run w) = some true) := by
  obtain ⟨⟨type, path, message⟩, ⟨started, operation, ended, failed⟩⟩ := q
  cases started with
  | some e =>
    cases type with
    | _ => exact ⟨.none rfl, iff_of_false (fun h => by cases h.2.1) (by intro h; cases h)⟩
  | none =>
    cases type with
    | day0 =>
      have hrun : (handle n ⟨⟨.day0, path, message⟩, ⟨none, operation, ended, failed⟩⟩).run w =
          ((do attempt n ⟨none, operation, ended, failed⟩ (fun _ => none); toDb) >>= fun _ => pure true : WorkerM Bool).run
            { w with status := .ofDeploying w.blueprintId, saved := some (.ofDeploying w.blueprintId) } := rfl
      exact tried_answers .day0 (by decide) path message ⟨none, operation, ended, failed⟩ rfl (fun _ => none) hrun rfl
    | day2 =>
      obtain ⟨w₁, hw, hrun⟩ := handleDay2_run n ⟨.day2, path, message⟩ ⟨none, operation, ended, failed⟩ rfl w
      exact tried_answers .day2 (by decide) path message ⟨none, operation, ended, failed⟩ rfl some hrun hw
    | day2ByName =>
      obtain ⟨w₁, hw, hrun⟩ := handleDay2_run n ⟨.day2ByName, path, message⟩ ⟨none, operation, ended, failed⟩ rfl w
      exact tried_answers .day2ByName (by decide) path message ⟨none, operation, ended, failed⟩ rfl some hrun hw
    | stop =>
      cases operation with
      | error e => exact ⟨.none rfl, iff_of_false (fun h => h.1 rfl) (by intro h; cases h)⟩
      | ok value =>
        cases ended with
        | none => exact ⟨.one rfl rfl, iff_of_false (fun h => h.1 rfl) (by intro h; cases h)⟩
        | some e => exact ⟨.one rfl rfl, iff_of_false (fun h => h.1 rfl) (by intro h; cases h)⟩

/-! ### The loop -/

theorem answersTo_append (h : w'.answers = w.answers ++ args.map (fun arg => (n, arg))) (k : Nat) :
    answersTo w' k = if k = n then answersTo w k ++ args else answersTo w k := by
  have hnew : ((args.map (fun arg => (n, arg))).filter (fun answer => decide (answer.1 = k))).map Prod.snd =
      if k = n then args else [] := by
    rw [List.filter_map, List.map_map]
    by_cases hk : k = n
    · subst hk
      have hall : args.filter ((fun answer : Nat × CallbackArg => decide (answer.1 = k)) ∘ fun arg => (k, arg)) = args :=
        List.filter_eq_self.2 (fun _ _ => decide_eq_true rfl)
      rw [if_pos rfl, hall]
      exact List.map_id args
    · rw [if_neg hk, List.filter_eq_nil_iff.2 (fun _ _ h => hk (of_decide_eq_true h).symm)]
      rfl
  unfold answersTo
  rw [h, List.filter_append, List.map_append, hnew]
  by_cases hk : k = n
  · rw [if_pos hk, if_pos hk]
  · rw [if_neg hk, if_neg hk, List.append_nil]

/-- The statuses every message of the queue is answered with: those after the end of the loop
get none. -/
def served : List QueuedMessage → List (List (Option CallbackStatus))
  | [] => []
  | q :: qs => q.replies :: if q.Continues then served qs else qs.map (fun _ => [])

theorem listenFrom_step (n : Nat) (q : QueuedMessage) (qs : List QueuedMessage) (w : BlueprintWorker) :
    finalState ((listenFrom n (q :: qs)).run w) =
      if q.Continues then finalState ((listenFrom (n + 1) qs).run (finalState ((handle n q).run w)))
      else finalState ((handle n q).run w) := by
  have hcontinues := (handle_answers n q w).2
  change finalState (EStateM.run (handle n q >>= fun b => if b then listenFrom (n + 1) qs else pure ()) w) = _
  rw [EStateM.run_bind]
  cases hrun : (handle n q).run w with
  | error e w' =>
    rw [hrun] at hcontinues
    rw [if_neg (fun h => by cases hcontinues.1 h)]
    rfl
  | ok b w' =>
    rw [hrun] at hcontinues
    cases b with
    | true =>
      rw [if_pos (hcontinues.2 rfl)]
      rfl
    | false =>
      rw [if_neg (fun h => by cases hcontinues.1 h)]
      rfl

theorem listenFrom_answers (n : Nat) (qs : List QueuedMessage) (w : BlueprintWorker)
    (hnone : ∀ k, n ≤ k → answersTo w k = []) (k : Nat) :
    (answersTo (finalState ((listenFrom n qs).run w)) k).map CallbackArg.status? =
      if k < n then (answersTo w k).map CallbackArg.status? else (served qs)[k - n]?.getD [] := by
  induction qs generalizing n w with
  | nil =>
    change (answersTo w k).map _ = _
    by_cases hk : k < n
    · rw [if_pos hk]
    · rw [if_neg hk, hnone k (Nat.le_of_not_lt hk)]
      rfl
  | cons q qs ih =>
    obtain ⟨⟨args, hreplies, hanswers⟩, -⟩ := handle_answers n q w
    have hafter := answersTo_append hanswers
    rw [listenFrom_step]
    by_cases hc : q.Continues
    · rw [if_pos hc, served, if_pos hc, ih (n + 1) (finalState ((handle n q).run w)), hafter]
      · rcases Nat.lt_trichotomy k n with hlt | rfl | hgt
        · rw [if_pos (Nat.lt_succ_of_lt hlt), if_pos hlt, if_neg (Nat.ne_of_lt hlt)]
        · rw [if_pos (Nat.lt_succ_self k), if_neg (Nat.lt_irrefl k), if_pos rfl, hnone k (Nat.le_refl k), Nat.sub_self,
            List.nil_append, hreplies]
          rfl
        · have hsub : k - n = k - (n + 1) + 1 := by omega
          rw [if_neg (Nat.not_lt.2 hgt), if_neg (Nat.not_lt.2 (Nat.le_of_lt hgt)), hsub, List.getElem?_cons_succ]
      · intro k hk
        rw [hafter, if_neg (Nat.ne_of_gt hk), hnone k (Nat.le_of_succ_le hk)]
    · rw [if_neg hc, served, if_neg hc, hafter]
      rcases Nat.lt_trichotomy k n with hlt | rfl | hgt
      · rw [if_pos hlt, if_neg (Nat.ne_of_lt hlt)]
      · rw [if_neg (Nat.lt_irrefl k), if_pos rfl, hnone k (Nat.le_refl k), Nat.sub_self, List.nil_append, hreplies]
        rfl
      · have hsub : k - n = k - (n + 1) + 1 := by omega
        rw [if_neg (Nat.ne_of_gt hgt), if_neg (Nat.not_lt.2 (Nat.le_of_lt hgt)), hnone k (Nat.le_of_lt hgt), hsub,
          List.getElem?_cons_succ, List.getElem?_map]
        cases qs[k - (n + 1)]? <;> rfl

/-- Every message had its callback called exactly once, with the status of its operation. -/
def AnsweredOnce (w : BlueprintWorker) (queue : List QueuedMessage) : Prop :=
  ∀ n q, queue[n]? = some q →
    ∃ arg, answersTo w n = [arg] ∧ arg.status? = some (CallbackStatus.of q.outcome.operation)

/-- No message is a `STOP`, the events before the operations and after those that returned are
published, and so are the error events of all messages but the last. -/
def Answerable : List QueuedMessage → Prop
  | [] => True
  | q :: qs => q.message.messageType ≠ .stop ∧ q.outcome.started = none ∧
      (match q.outcome.operation with
        | .ok _ => q.outcome.ended = none
        | .error _ => q.outcome.failed = none ∨ qs = []) ∧ Answerable qs

theorem replies_eq_iff (q : QueuedMessage) : q.replies = [some (CallbackStatus.of q.outcome.operation)] ↔
    q.message.messageType ≠ .stop ∧ q.outcome.started = none ∧
      (match q.outcome.operation with
        | .ok _ => q.outcome.ended = none
        | .error _ => True) := by
  obtain ⟨⟨type, path, message⟩, ⟨started, operation, ended, failed⟩⟩ := q
  unfold QueuedMessage.replies
  cases started with
  | some e => simp
  | none =>
    cases type <;> cases operation <;> cases ended <;> simp [CallbackStatus.of]

theorem served_eq_iff (queue : List QueuedMessage) :
    served queue = queue.map (fun q => [some (CallbackStatus.of q.outcome.operation)]) ↔ Answerable queue := by
  induction queue with
  | nil => exact iff_of_true rfl trivial
  | cons q qs ih =>
    have hunserved : qs.map (fun _ => ([] : List (Option CallbackStatus))) =
        qs.map (fun q => [some (CallbackStatus.of q.outcome.operation)]) ↔ qs = [] := by
      cases qs with
      | nil => exact iff_of_true rfl rfl
      | cons q' qs => exact iff_of_false (by simp) (by simp)
    rw [served, List.map_cons, List.cons.injEq, replies_eq_iff]
    obtain ⟨m, ⟨started, operation, ended, failed⟩⟩ := q
    unfold Answerable QueuedMessage.Continues
    by_cases hstop : m.messageType = .stop
    · simp [hstop]
    · cases started with
      | some e => simp
      | none =>
        cases operation with
        | ok value =>
          cases ended with
          | none => simp [hstop, ih]
          | some e => simp
        | error e =>
          cases failed with
          | none => simp [hstop, ih]
          | some e' =>
            simp only [ne_eq, hstop, not_false_iff, true_and, and_false, and_true, reduceCtorEq, if_false, hunserved,
              false_or]
            constructor
            · rintro rfl
              exact ⟨rfl, trivial⟩
            · exact fun h => h.1

theorem answersTo_listen (w : BlueprintWorker) (queue : List QueuedMessage) (k : Nat) :
    (answersTo (finalState ((listen queue).run { w with answers := [] })) k).map CallbackArg.status? =
      (served queue)[k]?.getD [] := by
  have h := listenFrom_answers 0 queue { w with answers := [] } (fun _ _ => rfl) k
  rw [if_neg (Nat.not_lt_zero k), Nat.sub_zero] at h
  exact h

theorem served_length (queue : List QueuedMessage) : (served queue).length = queue.length := by
  induction queue with
  | nil => rfl
  | cons q qs ih =>
    rw [served, List.length_cons, List.length_cons]
    split
    · rw [ih]
    · rw [List.length_map]

theorem answeredOnce_iff (w : BlueprintWorker) (queue : List QueuedMessage) :
    AnsweredOnce (finalState ((listen queue).run { w with answers := [] })) queue ↔
      served queue = queue.map (fun q => [some (CallbackStatus.of q.outcome.operation)]) := by
  have hone (args : List CallbackArg) (status : CallbackStatus) :
      (∃ arg, args = [arg] ∧ arg.status? = some status) ↔ args.map CallbackArg.status? = [some status] := by
    constructor
    · rintro ⟨arg, rfl, hstatus⟩
      rw [List.map_singleton, hstatus]
    · intro h
      obtain ⟨arg, rfl, hstatus⟩ := List.map_eq_singleton_iff.1 h
      exact ⟨arg, rfl, hstatus⟩
  unfold AnsweredOnce
  simp only [hone, answersTo_listen]
  constructor
  · intro h
    apply List.ext_getElem?
    intro n
    rw [List.getElem?_map]
    cases hq : queue[n]? with
    | none =>
      rw [Option.map_none, List.getElem?_eq_none_iff, served_length]
      exact List.getElem?_eq_none_iff.1 hq
    | some q =>
      have hlt : n < (served queue).length := by
        rw [served_length]
        exact (List.getElem?_eq_some_iff.1 hq).1
      have hn := h n q hq
      rw [List.getElem?_eq_getElem hlt] at hn ⊢
      exact congrArg some hn
  · intro h n q hq
    rw [h, List.getElem?_map, hq]
    rfl

end BlueprintWorker

/-- Every message is answered exactly once and with the right status exactly when no message is
a `STOP` and no event but the last error event is lost. -/
theorem worker_callbacks_iff (w : BlueprintWorker) (queue : List QueuedMessage) :
    BlueprintWorker.AnsweredOnce
      (finalState ((BlueprintWorker.listen queue).run { w with answers := [] })) queue ↔
      BlueprintWorker.Answerable queue := by
  rw [BlueprintWorker.answeredOnce_iff, BlueprintWorker.served_eq_iff]

/-- The event after a creation cannot be published: the caller gets `OK` and then `ERROR`. -/
theorem worker_callbacks_fail :
    ¬ ∀ (w : BlueprintWorker) (queue : List QueuedMessage), BlueprintWorker.AnsweredOnce
      (finalState ((BlueprintWorker.listen queue).run { w with answers := [] })) queue := by
  intro h
  have hfirst := h ⟨1, {}, [], none, []⟩
    [⟨⟨.day0, "vyos", none⟩, ⟨none, .ok .none, some (.external "redis is down"), none⟩⟩] 0 _ rfl
  obtain ⟨arg, hanswers, -⟩ := hfirst
  have htwice : (BlueprintWorker.answersTo (finalState ((BlueprintWorker.listen
      [⟨⟨.day0, "vyos", none⟩, ⟨none, .ok .none, some (.external "redis is down"), none⟩⟩]).run ⟨1, {}, [], none, []⟩))
      0).length = 2 := by decide +kernel
  rw [hanswers] at htwice
  cases htwice

end Nfvcl
