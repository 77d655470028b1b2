import PathSets.Value.Basic

/-!
# Computations that build sets

A build computes a value or a fault.  Either way it may have used up members of one-shot iterators
and given out tags, which its `Supply` records, and it has announced what it did, in order.

What a build announces is heard by an `Audience`, which has a state of its own: every notice changes
that state at once, and what is built afterwards meets the state that this leaves.  The audience of
`Build.run` is the scribe, which does nothing but write the notices down.
-/

namespace PathSets

/-- What builds draw on: the tags not in use, and the members that iterators have left. -/
structure Supply where
  /-- The first tag that nothing has yet. -/
  next : Tag
  /-- The members that an iterator still has. -/
  remaining : Tag → List Value

/-- Something that a build announces. -/
inductive Notice where
  /-- A glob was compiled. -/
  | compiled (glob : Glob)
  /-- A set is about to be made from these members. -/
  | gathering (members : List Value)

/-- The tag of the one empty set that all builds share. -/
def sharedEmptyTag : Tag := 0

/-- The one empty set that all builds share. -/
def sharedEmpty : PathSet Tag := .empty sharedEmptyTag

namespace Supply

/-- The supply before anything was built; the shared empty set has its tag already. -/
def initial : Supply where
  next := sharedEmptyTag + 1
  remaining := fun _ => []

instance : Inhabited Supply := ⟨initial⟩

/-- The supply in which an iterator has these members left. -/
def leave (supply : Supply) (iterator : Tag) (items : List Value) : Supply :=
  { supply with remaining := fun tag => if tag = iterator then items else supply.remaining tag }

@[simp] theorem leave_next (supply : Supply) (iterator : Tag) (items : List Value) :
    (supply.leave iterator items).next = supply.next := rfl

@[simp] theorem leave_remaining_self (supply : Supply) (iterator : Tag) (items : List Value) :
    (supply.leave iterator items).remaining iterator = items := by
  simp [leave]

theorem leave_remaining_of_ne (supply : Supply) {iterator tag : Tag} (items : List Value)
    (other : tag ≠ iterator) :
    (supply.leave iterator items).remaining tag = supply.remaining tag := by
  simp [leave, other]

end Supply

/-- What hears the notices of builds. -/
structure Audience where
  /-- What it keeps in mind. -/
  State : Type
  /-- What it gives out. -/
  Output : Type
  /-- What it gives out, and keeps in mind, when it hears a notice. -/
  hear : State → Notice → List Output × State

/-- The audience that keeps nothing in mind and gives out the very notices. -/
def Audience.scribe : Audience where
  State := Unit
  Output := Notice
  hear _ notice := ([notice], ())

/-- What a build comes to before an audience. -/
structure Performance (audience : Audience) (α : Type) where
  /-- The value, or why there is none. -/
  outcome : Except Fault α
  /-- The supply afterwards. -/
  supply : Supply
  /-- What the audience keeps in mind afterwards. -/
  state : audience.State
  /-- What the audience gave out, in order. -/
  outputs : List audience.Output

/-- What a build comes to. -/
structure Built (α : Type) where
  /-- The value, or why there is none. -/
  outcome : Except Fault α
  /-- The supply afterwards. -/
  supply : Supply
  /-- What was announced, in order. -/
  notices : List Notice

/-- A computation on a supply that may fail and that announces what it does to an audience. -/
def Build (audience : Audience) (α : Type) : Type :=
  Supply → audience.State → Performance audience α

namespace Build

variable {audience : Audience} {α β : Type}

/-- Perform a build on a supply before an audience in some state. -/
def perform (build : Build audience α) (supply : Supply) (state : audience.State) :
    Performance audience α := build supply state

/-- Run a build on a supply, with what it announces written down. -/
def run (build : Build .scribe α) (supply : Supply) : Built α :=
  let done := build.perform supply ()
  ⟨done.outcome, done.supply, done.outputs⟩

/-- The build that does nothing but give a value. -/
def done (value : α) : Build audience α := fun supply state => ⟨.ok value, supply, state, []⟩

/-- The build that fails. -/
def fail (fault : Fault) : Build audience α := fun supply state => ⟨.error fault, supply, state, []⟩

/-- One build after another; the second is left out when the first one fails. -/
def andThen (first : Build audience α) (second : α → Build audience β) : Build audience β :=
  fun supply state =>
    match first supply state with
    | ⟨.error fault, supply, state, outputs⟩ => ⟨.error fault, supply, state, outputs⟩
    | ⟨.ok value, supply, state, outputs⟩ =>
        let last := second value supply state
        ⟨last.outcome, last.supply, last.state, outputs ++ last.outputs⟩

instance : Monad (Build audience) where
  pure := done
  bind := andThen

instance : LawfulMonad (Build audience) := LawfulMonad.mk' (Build audience)
  (fun build => by
    funext supply state
    change andThen build done supply state = _
    unfold andThen
    rcases build supply state with ⟨_ | _, _, _, _⟩ <;> simp [done])
  (fun _ _ => rfl)
  (fun first second third => by
    funext supply state
    change andThen (andThen first second) third supply state =
      andThen first (fun value => andThen (second value) third) supply state
    unfold andThen
    rcases first supply state with ⟨_ | value, after, between, _⟩
    · rfl
    · rcases ran : second value after between with ⟨_ | _, _, _, _⟩ <;> simp [ran])

/-- The build that has this outcome. -/
def ofExcept : Except Fault α → Build audience α
  | .ok value => done value
  | .error fault => fail fault

/-- Announce something. -/
def announce (notice : Notice) : Build audience Unit := fun supply state =>
  let heard := audience.hear state notice
  ⟨.ok (), supply, heard.2, heard.1⟩

/-- Take a tag that nothing has yet. -/
def fresh : Build audience Tag := fun supply state =>
  ⟨.ok supply.next, { supply with next := supply.next + 1 }, state, []⟩

/-- The members that an iterator has left. -/
def remaining (iterator : Tag) : Build audience (List Value) := fun supply state =>
  ⟨.ok (supply.remaining iterator), supply, state, []⟩

/-- Leave these members to an iterator. -/
def leave (iterator : Tag) (items : List Value) : Build audience Unit := fun supply state =>
  ⟨.ok (), supply.leave iterator items, state, []⟩

@[simp] theorem run_pure (value : α) (supply : Supply) :
    (pure value : Build .scribe α).run supply = ⟨.ok value, supply, []⟩ := rfl

@[simp] theorem run_fail (fault : Fault) (supply : Supply) :
    (fail fault : Build .scribe α).run supply = ⟨.error fault, supply, []⟩ := rfl

@[simp] theorem run_announce (notice : Notice) (supply : Supply) :
    (announce notice).run supply = ⟨.ok (), supply, [notice]⟩ := rfl

@[simp] theorem run_fresh (supply : Supply) :
    fresh.run supply = ⟨.ok supply.next, { supply with next := supply.next + 1 }, []⟩ := rfl

@[simp] theorem run_remaining (iterator : Tag) (supply : Supply) :
    (remaining iterator).run supply = ⟨.ok (supply.remaining iterator), supply, []⟩ := rfl

@[simp] theorem run_leave (iterator : Tag) (items : List Value) (supply : Supply) :
    (leave iterator items).run supply = ⟨.ok (), supply.leave iterator items, []⟩ := rfl

theorem perform_bind (first : Build audience α) (second : α → Build audience β) (supply : Supply)
    (state : audience.State) :
    (first >>= second).perform supply state =
      match first.perform supply state with
      | ⟨.error fault, supply, state, outputs⟩ => ⟨.error fault, supply, state, outputs⟩
      | ⟨.ok value, supply, state, outputs⟩ =>
          let last := (second value).perform supply state
          ⟨last.outcome, last.supply, last.state, outputs ++ last.outputs⟩ := rfl

variable {first : Build .scribe α} {second : α → Build .scribe β} {supply after : Supply}
  {notices : List Notice}

theorem run_bind_of_ok {value : α} (ran : first.run supply = ⟨.ok value, after, notices⟩) :
    (first >>= second).run supply =
      ⟨((second value).run after).outcome, ((second value).run after).supply,
        notices ++ ((second value).run after).notices⟩ := by
  have joined := perform_bind first second supply ()
  rcases performed : first.perform supply () with ⟨outcome, _, _, _⟩
  simp only [run, performed] at ran
  cases ran
  rw [performed] at joined
  rw [run, joined]
  rfl

theorem run_bind_of_error {fault : Fault}
    (ran : first.run supply = ⟨.error fault, after, notices⟩) :
    (first >>= second).run supply = ⟨.error fault, after, notices⟩ := by
  have joined := perform_bind first second supply ()
  rcases performed : first.perform supply () with ⟨outcome, _, _, _⟩
  simp only [run, performed] at ran
  cases ran
  rw [performed] at joined
  rw [run, joined]

end Build
end PathSets
