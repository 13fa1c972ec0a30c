import Mathlib.Data.List.Perm.Basic
import SnippetCost.Analysis.Pool

/-!
# The pool answers every request once

Whatever the number of workers and whatever the schedule, the pool ends with one answer to each request, and
collecting the answers by number puts them in the order of the requests.

The invariant is the *account* of a pool: the answers that came, and those still owed for the requests
waiting and running.  A step permutes the account and brings one answer from owed to came
(`account_step_perm`, `unfinished_step`); so a run of as many steps as there are requests ends with an
account that is all answers (`answers_perm`).

Main statement: **`inOrder_answers`**.
-/

namespace SnippetCost

namespace Pool

open List

variable {α β : Type}

/-! ## The account of a pool -/

/-- The answers owed for the requests that are not finished, and the answers that came. -/
def account (job : α → β) (p : Pool α β) : List (Nat × β) :=
  (p.waiting ++ p.running).map (Prod.map id job) ++ p.finished

/-- The number of requests that are not finished. -/
def unfinished (p : Pool α β) : Nat :=
  p.waiting.length + p.running.length

section Step

variable (workers : Nat) (job : α → β) (place : Nat) (p : Pool α β)

/-- **Step.**  Handing waiting jobs to idle workers loses and doubles none of the answers. -/
theorem account_fill_perm : account job (p.fill workers) ~ account job p := by
  unfold account fill
  refine Perm.append_right _ (Perm.map _ ?_)
  have hsplit := List.take_append_drop (workers - p.running.length) p.waiting
  calc p.waiting.drop (workers - p.running.length) ++
        (p.running ++ p.waiting.take (workers - p.running.length))
      ~ (p.running ++ p.waiting.take (workers - p.running.length)) ++
          p.waiting.drop (workers - p.running.length) := perm_append_comm
    _ = p.running ++ p.waiting := by rw [List.append_assoc, hsplit]
    _ ~ p.waiting ++ p.running := perm_append_comm

/-- It does not finish a job either. -/
theorem unfinished_fill : (p.fill workers).unfinished = p.unfinished := by
  simp only [unfinished, fill, List.length_drop, List.length_append, List.length_take]
  omega

/-- With a worker and something to do, something is being done. -/
theorem running_fill_ne_nil (hworkers : 0 < workers) (h : 0 < p.unfinished) :
    (p.fill workers).running ≠ [] := by
  have hlength : 0 < (p.fill workers).running.length := by
    unfold unfinished at h
    simp only [fill, List.length_append, List.length_take]
    omega
  exact List.ne_nil_of_length_pos hlength

/-- **Step.**  Nor does the end of a job: its answer has already been accounted for. -/
theorem account_finish_perm : account job (p.finish job place) ~ account job p := by
  unfold finish
  cases hrunning : p.running[place % p.running.length]? with
  | none => exact Perm.refl _
  | some request =>
      obtain ⟨i, x⟩ := request
      obtain ⟨hlt, hget⟩ := List.getElem?_eq_some_iff.mp hrunning
      have hpick := List.getElem_cons_eraseIdx_perm hlt
      rw [hget] at hpick
      unfold account
      simp only [List.map_append, List.append_assoc]
      refine Perm.append_left _ ?_
      have howed := hpick.map (Prod.map id job)
      calc (p.running.eraseIdx (place % p.running.length)).map (Prod.map id job) ++
            (p.finished ++ [(i, job x)])
          ~ (i, job x) :: ((p.running.eraseIdx (place % p.running.length)).map (Prod.map id job) ++
              p.finished) := by
            rw [← List.append_assoc]
            exact perm_append_singleton _ _
        _ ~ p.running.map (Prod.map id job) ++ p.finished := howed.append_right p.finished

/-- It leaves one job less to be done. -/
theorem unfinished_finish (h : p.running ≠ []) :
    (p.finish job place).unfinished + 1 = p.unfinished := by
  have hlength : 0 < p.running.length := List.length_pos_of_ne_nil h
  have hlt : place % p.running.length < p.running.length := Nat.mod_lt _ hlength
  unfold finish
  rw [List.getElem?_eq_getElem hlt]
  simp only [unfinished, List.length_eraseIdx_of_lt hlt]
  omega

/-- A step permutes the account. -/
theorem account_step_perm :
    account job ((p.fill workers).finish job place) ~ account job p :=
  (account_finish_perm job place (p.fill workers)).trans (account_fill_perm workers job p)

/-- A step with a worker finishes a request, if there is one. -/
theorem unfinished_step (hworkers : 0 < workers) (h : 0 < p.unfinished) :
    ((p.fill workers).finish job place).unfinished + 1 = p.unfinished := by
  rw [unfinished_finish job place _ (running_fill_ne_nil workers p hworkers h), unfinished_fill]

end Step

/-! ## A run of the pool -/

section Run

variable (workers : Nat) (schedule : List Nat) (job : α → β)

/-- **Run.**  So the account is the same after any number of steps. -/
theorem account_steps_perm (n : Nat) (p : Pool α β) :
    account job (steps workers job n schedule p) ~ account job p := by
  induction n generalizing schedule p with
  | zero => exact Perm.refl _
  | succ n ih =>
      rw [steps]
      exact (ih schedule.tail _).trans (account_step_perm workers job (schedule.headD 0) p)

/-- As many steps as there are requests finish them all. -/
theorem unfinished_steps (hworkers : 0 < workers) (p : Pool α β) :
    (steps workers job p.unfinished schedule p).unfinished = 0 := by
  induction hn : p.unfinished generalizing schedule p with
  | zero => exact hn
  | succ n ih =>
      have hstep := unfinished_step workers job (schedule.headD 0) p hworkers (by omega)
      rw [steps]
      exact ih schedule.tail _ (by omega)

/-- An account on which nothing is owed is that of the answers. -/
theorem account_of_unfinished_eq_zero {p : Pool α β} (h : p.unfinished = 0) :
    account job p = p.finished := by
  unfold unfinished at h
  have hwaiting : p.waiting = [] := List.eq_nil_of_length_eq_zero (by omega)
  have hrunning : p.running = [] := List.eq_nil_of_length_eq_zero (by omega)
  unfold account
  rw [hwaiting, hrunning]
  rfl

/-- The answers are those to the requests, each once, in some order. -/
theorem answers_perm (hworkers : 0 < workers) (requests : List α) :
    answers workers schedule job requests ~ (requests.map job).mapIdx Prod.mk := by
  have hcount : (ofRequests requests : Pool α β).unfinished = requests.length := by
    simp [unfinished, ofRequests]
  have hdone := unfinished_steps workers schedule job hworkers (ofRequests requests)
  have hperm := account_steps_perm workers schedule job requests.length (ofRequests requests)
  rw [hcount] at hdone
  rw [account_of_unfinished_eq_zero job hdone] at hperm
  have haccount : account job (ofRequests requests) = (requests.map job).mapIdx Prod.mk := by
    refine List.ext_getElem (by simp [account, ofRequests]) ?_
    intro i hi hi'
    simp [account, ofRequests]
  rw [haccount] at hperm
  exact hperm

end Run

/-! ## Collecting the answers -/

/-- Where no number occurs twice, what is found under a number is what stands there. -/
theorem lookup_eq_some_of_mem {l : List (Nat × β)} (hkeys : (l.map Prod.fst).Nodup) {i : Nat} {y : β}
    (hmem : (i, y) ∈ l) : l.lookup i = some y := by
  induction l with
  | nil => cases hmem
  | cons entry l ih =>
      obtain ⟨j, z⟩ := entry
      rw [List.map_cons, List.nodup_cons] at hkeys
      rcases List.mem_cons.mp hmem with heq | hmem
      · cases heq
        exact List.lookup_cons_self
      · have hne : i ≠ j := by
          intro hij
          rw [hij] at hmem
          exact hkeys.1 (List.mem_map.mpr ⟨(j, y), hmem, rfl⟩)
        rw [List.lookup_cons, beq_eq_false_iff_ne.mpr hne]
        exact ih hkeys.2 hmem

/-- A list is what stands at its places, one after the other. -/
theorem filterMap_range_getElem? (ys : List β) :
    (List.range ys.length).filterMap (fun i => ys[i]?) = ys := by
  induction ys with
  | nil => rfl
  | cons y ys ih =>
      have hfirst : (y :: ys)[0]? = some y := rfl
      rw [List.length_cons, List.range_succ_eq_map, List.filterMap_cons_some hfirst,
        List.filterMap_map]
      simpa [Function.comp_def] using ih

/-- Numbered answers, in whatever order they came, are put back in the order of their numbers. -/
theorem inOrder_of_perm {numbered : List (Nat × β)} {ys : List β}
    (h : numbered ~ ys.mapIdx Prod.mk) : inOrder ys.length numbered = ys := by
  have hkeys : (numbered.map Prod.fst).Nodup := by
    have hrange : (ys.mapIdx Prod.mk).map Prod.fst = List.range ys.length := by
      apply List.ext_getElem
      · simp
      · intro i hi hi'
        simp
    rw [(h.map Prod.fst).nodup_iff, hrange]
    exact List.nodup_range
  have hlookup : ∀ i ∈ List.range ys.length, List.lookup i numbered = ys[i]? := by
    intro i hi
    have hlt : i < ys.length := List.mem_range.mp hi
    rw [List.getElem?_eq_getElem hlt]
    refine lookup_eq_some_of_mem hkeys (h.mem_iff.mpr ?_)
    rw [List.mem_mapIdx]
    exact ⟨i, hlt, rfl⟩
  unfold inOrder
  rw [List.filterMap_congr hlookup, filterMap_range_getElem?]

/-- **Every request is answered, and the answers are in the order of the requests**, however many workers
there are and whatever the schedule says. -/
theorem inOrder_answers {workers count : Nat} {requests : List α} (hworkers : 0 < workers)
    (hcount : requests.length = count) (schedule : List Nat) (job : α → β) :
    inOrder count (answers workers schedule job requests) = requests.map job := by
  have h := inOrder_of_perm (answers_perm workers schedule job hworkers requests)
  rw [List.length_map, hcount] at h
  exact h

/-- There is always somebody at work, whatever number was wanted. -/
theorem workers_pos (wanted : Int) (count : Nat) : 0 < workers wanted count := by
  unfold workers
  omega

end Pool

end SnippetCost
