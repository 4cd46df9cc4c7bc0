/-!
# Running tasks until they rest

A pool holds tasks that wait for something. Looking at a task once lets it go on as far as it can,
until it completes or waits again. A pass looks at every task once, and passes are repeated until
one completes nothing. Every pass but the last takes a task away, so the number of tasks at the
start bounds the number of passes.
-/

namespace RangeSurvey

universe u v w

/-- One look at each of the tasks `ids` in turn. What completed is listed in the order in which it
completed. -/
def pass {σ : Type u} {ι : Type v} {ρ : Type w} (poll : ι → σ → σ × Option ρ) :
    List ι → σ → σ × List (ι × ρ)
  | [], s => (s, [])
  | id :: ids, s =>
    match poll id s with
    | (s, none) => pass poll ids s
    | (s, some result) =>
      let (s, done) := pass poll ids s
      (s, (id, result) :: done)

/-- At most `limit` passes over the pending tasks, up to the first that completes nothing. -/
def passes {σ : Type u} {ι : Type v} {ρ : Type w} (poll : ι → σ → σ × Option ρ)
    (pending : σ → List ι) : (limit : Nat) → σ → σ × List (ι × ρ)
  | 0, s => (s, [])
  | limit + 1, s =>
    match pass poll (pending s) s with
    | (s, []) => (s, [])
    | (s, done) =>
      let (s, later) := passes poll pending limit s
      (s, done ++ later)

def settle {σ : Type u} {ι : Type v} {ρ : Type w} (poll : ι → σ → σ × Option ρ)
    (pending : σ → List ι) (s : σ) : σ × List (ι × ρ) :=
  passes poll pending ((pending s).length + 1) s

end RangeSurvey
