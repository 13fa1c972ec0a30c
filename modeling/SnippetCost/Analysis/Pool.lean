/-!
# A pool of workers

Requests are taken up in order, at most so many at a time; which of those being worked on is finished
next is up to the world.  A `schedule` says which, by place among them, for each step; when it runs out
the one taken up first is next.  The answers are collected by the number of their request.

Who waits for the answers, in this order, may give up at one of them.  The requests that are not taken up by
then are dropped; those being worked on are still answered.
-/

namespace SnippetCost

variable {α β : Type}

/-- The requests by number: those not taken up yet, those being worked on, and the answers in the order
in which they came. -/
structure Pool (α β : Type) where
  waiting : List (Nat × α)
  running : List (Nat × α)
  finished : List (Nat × β)

namespace Pool

/-- The pool before anything is taken up. -/
def ofRequests (requests : List α) : Pool α β :=
  ⟨requests.mapIdx fun i x => (i, x), [], []⟩

/-- Takes up requests until every worker has one. -/
def fill (workers : Nat) (p : Pool α β) : Pool α β :=
  let free := workers - p.running.length
  { p with waiting := p.waiting.drop free, running := p.running ++ p.waiting.take free }

/-- Finishes the request at a place among those being worked on. -/
def finish (job : α → β) (place : Nat) (p : Pool α β) : Pool α β :=
  match p.running[place % p.running.length]? with
  | some (i, x) =>
    { p with running := p.running.eraseIdx (place % p.running.length)
             finished := p.finished ++ [(i, job x)] }
  | none => p

/-- So many steps, each of which takes up what can be and finishes one request. -/
def steps (workers : Nat) (job : α → β) : Nat → List Nat → Pool α β → Pool α β
  | 0, _, p => p
  | n + 1, schedule, p =>
    steps workers job n schedule.tail ((p.fill workers).finish job (schedule.headD 0))

/-- The answers to all requests, by number, in the order in which they came. -/
def answers (workers : Nat) (schedule : List Nat) (job : α → β) (requests : List α) :
    List (Nat × β) :=
  (steps workers job requests.length schedule (ofRequests requests)).finished

/-- Answers in the order of their requests. -/
def inOrder (count : Nat) (answers : List (Nat × β)) : List β :=
  (List.range count).filterMap fun i => List.lookup i answers

/-- The answers that still come if the others are given up at the one with a number.  By then the requests up to
this one are answered, and `takenUp` have been taken up if that is more. -/
def givenUpAt (number takenUp : Nat) (answers : List (Nat × β)) : List (Nat × β) :=
  answers.filter fun answer => answer.1 ≤ number ∨ answer.1 < takenUp

/-- How many workers `count` requests get where `wanted` are asked for: no more than there are requests,
and at least one. -/
def workers (wanted : Int) (count : Nat) : Nat :=
  max 1 (min wanted count).toNat

end Pool

end SnippetCost
