import SeededText.Choice.Synchronizers

/-!
Contract: the choices of a synchronizer depend on what reaches it, and on nothing else.

Which requests reach a synchronizer is told from the requests alone: those that name it, once it has
been made, and those to the active one while its name is the last that was activated. What it
chooses is what it would choose without any other synchronizer beside it.

Owns: requests to the synchronizers of a run, which of them reach a name, its choices.
Does not own: what one synchronizer chooses (`SeededText.Choice.Synchronizer`).
-/

namespace SeededText.Choice

open SeededText.Random

/-! ### Requests -/

/-- What can be asked of a synchronizer. -/
inductive StreamRequest where
  | pin
  | unpin
  | step
  | reset
  | next (length : Nat)

namespace StreamRequest

def change : StreamRequest → Synchronizer → Synchronizer
  | .pin, synchronizer => synchronizer.pin
  | .unpin, synchronizer => synchronizer.unpin
  | .step, synchronizer => synchronizer.step
  | .reset, synchronizer => synchronizer.reset
  | .next length, synchronizer => (synchronizer.next length).2

def choice? : StreamRequest → Synchronizer → Option Nat
  | .next length, synchronizer => some (synchronizer.next length).1
  | _, _ => none

end StreamRequest

/-- What can be asked of the synchronizers of a run. -/
inductive Request where
  | activate (name : String) (kind : SynchronizerKind)
  | deactivate
  | reseed (name seed : String)
  | named (name : String) (request : StreamRequest)
  | active (request : StreamRequest)

/-- Asks the synchronizer `name`, if there is one. A choice comes with the name of who made it. -/
def Synchronizers.ask (synchronizers : Synchronizers) (name : String) (request : StreamRequest) :
    Synchronizers × Option (String × Nat) :=
  ((synchronizers.update? name request.change).getD synchronizers,
    (synchronizers.find? name).bind fun synchronizer =>
      (request.choice? synchronizer).map fun choice => (name, choice))

def Request.perform (synchronizers : Synchronizers) :
    Request → Synchronizers × Option (String × Nat)
  | .activate name kind => (synchronizers.activate name kind, none)
  | .deactivate => (synchronizers.deactivate, none)
  | .reseed name seed => ((synchronizers.reseed? name seed).getD synchronizers, none)
  | .named name request => synchronizers.ask name request
  | .active request =>
      match synchronizers.active? with
      | some (name, _) => synchronizers.ask name request
      | none => (synchronizers, none)

/-- The synchronizers behind requests, the first of them in front. -/
def Synchronizers.behind (synchronizers : Synchronizers) (requests : List Request) :
    Synchronizers :=
  requests.foldl (fun synchronizers request => (request.perform synchronizers).1) synchronizers

/-- The choices that requests lead to, in order. -/
def Synchronizers.choices (synchronizers : Synchronizers) : List Request → List (String × Nat)
  | [] => []
  | request :: requests =>
      (request.perform synchronizers).2.toList ++
        choices (request.perform synchronizers).1 requests

/-- The choices of one synchronizer. -/
def choicesOf (name : String) (choices : List (String × Nat)) : List Nat :=
  choices.filterMap fun (chooser, choice) => if chooser = name then some choice else none

/-! ### What reaches a synchronizer -/

/-- Whether a synchronizer has been made. -/
def isMade (name : String) (earlier : List Request) : Bool :=
  earlier.any fun
    | .activate other _ => other = name
    | _ => false

/-- The name that was activated last, unless it has been deactivated. -/
def lastActive? (earlier : List Request) : Option String :=
  earlier.foldl (fun
    | _, .activate name _ => some name
    | _, .deactivate => none
    | active?, _ => active?) none

/-- What reaches a synchronizer. -/
inductive Arrival where
  | creation (kind : SynchronizerKind)
  | reseeding (seed : String)
  | asking (request : StreamRequest)

/-- What of a request, behind earlier ones, reaches the synchronizer `name`. -/
def Request.arrival? (name : String) (earlier : List Request) : Request → Option Arrival
  | .activate other kind =>
      if other = name ∧ isMade name earlier = false then some (.creation kind) else none
  | .deactivate => none
  | .reseed other seed =>
      if other = name ∧ isMade name earlier then some (.reseeding seed) else none
  | .named other request =>
      if other = name ∧ isMade name earlier then some (.asking request) else none
  | .active request => if lastActive? earlier = some name then some (.asking request) else none

/-- All that reaches the synchronizer `name`, in order. -/
def arrivals (name : String) (earlier : List Request) : List Request → List Arrival
  | [] => []
  | request :: later =>
      (request.arrival? name earlier).toList ++ arrivals name (earlier ++ [request]) later

/-! ### A synchronizer on its own -/

section Alone

variable (runSeed : UInt64) (name : String)

/-- What becomes of a synchronizer, which there may not be yet. -/
def Arrival.change (synchronizer? : Option Synchronizer) : Arrival → Option Synchronizer
  | .creation kind => some (.fresh kind (deriveSeed runSeed name))
  | .reseeding seed => synchronizer?.map (·.reseed (deriveSeed runSeed seed))
  | .asking request => synchronizer?.map request.change

def Arrival.choice? (synchronizer? : Option Synchronizer) : Arrival → Option Nat
  | .asking request => synchronizer?.bind request.choice?
  | _ => none

/-- What a synchronizer chooses, given all that reaches it. -/
def chooseAlone (synchronizer? : Option Synchronizer) : List Arrival → List Nat
  | [] => []
  | arrival :: arrivals =>
      (arrival.choice? synchronizer?).toList ++
        chooseAlone (arrival.change runSeed name synchronizer?) arrivals

end Alone

/-! ### Requests one by one -/

section Requests

variable {runSeed : UInt64} {earlier : List Request} {synchronizers : Synchronizers}

theorem find?_activate (synchronizers : Synchronizers) (name other : String)
    (kind : SynchronizerKind) :
    (synchronizers.activate name kind).find? other =
      (synchronizers.find? other).or
        (if name = other then some (.fresh kind (deriveSeed synchronizers.runSeed name))
          else none) :=
  Table.find?_insertIfNew _ _ _ _

theorem find?_update (synchronizers : Synchronizers) (name other : String)
    (change : Synchronizer → Synchronizer) :
    ((synchronizers.update? name change).getD synchronizers).find? other =
      if name = other then (synchronizers.find? other).map change
      else synchronizers.find? other := by
  unfold Synchronizers.update?
  cases found : synchronizers.find? name with
  | none =>
      by_cases same : name = other
      · subst same
        simp [found]
      · simp [same]
  | some synchronizer =>
      show (synchronizers.table.insert name (change synchronizer)).find? other = _
      rw [Table.find?_insert]
      by_cases same : name = other
      · subst same
        simp [found]
      · rw [if_neg same, if_neg same]
        rfl

/-- Synchronizers of which the earlier requests tell the active name and the names there are. -/
structure Follows (runSeed : UInt64) (earlier : List Request) (synchronizers : Synchronizers) :
    Prop where
  runSeed : synchronizers.runSeed = runSeed
  active : synchronizers.activeName? = lastActive? earlier
  made : ∀ name, (synchronizers.find? name).isSome = isMade name earlier
  activeMade : ∀ name, lastActive? earlier = some name → isMade name earlier = true

namespace Follows

theorem fresh (runSeed : UInt64) : Follows runSeed [] (.fresh runSeed) where
  runSeed := rfl
  active := rfl
  made _ := rfl
  activeMade _ none := by cases none

theorem activate (follows : Follows runSeed earlier synchronizers) (name : String)
    (kind : SynchronizerKind) :
    Follows runSeed (earlier ++ [.activate name kind]) (synchronizers.activate name kind) where
  runSeed := follows.runSeed
  active := by simp [lastActive?, Synchronizers.activate]
  made other := by
    rw [find?_activate, Option.isSome_or, follows.made]
    by_cases same : name = other <;> simp [isMade, same]
  activeMade other active := by
    obtain rfl : name = other := by simpa [lastActive?] using active
    simp [isMade]

theorem deactivate (follows : Follows runSeed earlier synchronizers) :
    Follows runSeed (earlier ++ [.deactivate]) synchronizers.deactivate where
  runSeed := follows.runSeed
  active := by simp [lastActive?, Synchronizers.deactivate]
  made other := by
    show (synchronizers.find? other).isSome = _
    rw [follows.made]
    simp [isMade]
  activeMade other active := by simp [lastActive?] at active

/-- Changing a synchronizer neither makes nor activates one. -/
theorem update (follows : Follows runSeed earlier synchronizers) (name : String)
    (change : Synchronizer → Synchronizer) :
    Follows runSeed earlier ((synchronizers.update? name change).getD synchronizers) where
  runSeed := by
    rw [← follows.runSeed]
    unfold Synchronizers.update?
    cases synchronizers.find? name <;> rfl
  active := by
    rw [← follows.active]
    unfold Synchronizers.update?
    cases synchronizers.find? name <;> rfl
  made other := by
    rw [← follows.made, find?_update]
    split <;> simp
  activeMade := follows.activeMade

theorem append (follows : Follows runSeed earlier synchronizers) {request : Request}
    (active : lastActive? (earlier ++ [request]) = lastActive? earlier)
    (made : ∀ name, isMade name (earlier ++ [request]) = isMade name earlier) :
    Follows runSeed (earlier ++ [request]) synchronizers where
  runSeed := follows.runSeed
  active := follows.active.trans active.symm
  made name := (follows.made name).trans (made name).symm
  activeMade name found := (made name).trans (follows.activeMade name (active.symm.trans found))

/-- The active name is that of a synchronizer. -/
theorem exists_active (follows : Follows runSeed earlier synchronizers) {name : String}
    (active : synchronizers.activeName? = some name) :
    ∃ synchronizer, synchronizers.find? name = some synchronizer :=
  Option.isSome_iff_exists.mp
    ((follows.made name).trans (follows.activeMade name (follows.active.symm.trans active)))

/-- A request to the active synchronizer goes to the one whose name was activated last. -/
theorem perform_active (follows : Follows runSeed earlier synchronizers)
    (request : StreamRequest) :
    (Request.active request).perform synchronizers =
      (lastActive? earlier).elim (synchronizers, none) (synchronizers.ask · request) := by
  have found : synchronizers.active? =
      synchronizers.activeName?.bind fun name =>
        (synchronizers.find? name).map fun synchronizer => (name, synchronizer) := by
    unfold Synchronizers.active?
    cases synchronizers.activeName? with
    | none => rfl
    | some name =>
        show ((synchronizers.find? name).bind fun synchronizer => some (name, synchronizer)) =
          (synchronizers.find? name).map fun synchronizer => (name, synchronizer)
        cases synchronizers.find? name <;> rfl
  rw [Request.perform, found, ← follows.active]
  cases active : synchronizers.activeName? with
  | none => rfl
  | some name =>
      obtain ⟨synchronizer, present⟩ := follows.exists_active active
      rw [Option.bind_some, present]
      rfl

theorem perform (follows : Follows runSeed earlier synchronizers) (request : Request) :
    Follows runSeed (earlier ++ [request]) (request.perform synchronizers).1 := by
  cases request with
  | activate name kind => exact follows.activate name kind
  | deactivate => exact follows.deactivate
  | reseed name seed =>
      exact (follows.update name _).append (by simp [lastActive?]) (by simp [isMade])
  | named name request =>
      exact (follows.update name _).append (by simp [lastActive?]) (by simp [isMade])
  | active request =>
      rw [follows.perform_active]
      cases lastActive? earlier with
      | none => exact follows.append (by simp [lastActive?]) (by simp [isMade])
      | some name =>
          exact (follows.update name _).append (by simp [lastActive?]) (by simp [isMade])

theorem behind (follows : Follows runSeed earlier synchronizers) (requests : List Request) :
    Follows runSeed (earlier ++ requests) (synchronizers.behind requests) := by
  induction requests generalizing earlier synchronizers with
  | nil => rwa [List.append_nil]
  | cons request requests inductionHypothesis =>
      have further := inductionHypothesis (follows.perform request)
      rwa [List.append_assoc, List.singleton_append] at further

theorem isMade_eq_false (follows : Follows runSeed earlier synchronizers) {name : String} :
    isMade name earlier = false ↔ synchronizers.find? name = none := by
  rw [← follows.made, Option.isSome_eq_false_iff, Option.isNone_iff_eq_none]

end Follows

/-! ### What a request does to one synchronizer -/

/-- A synchronizer goes through a request as it goes alone through what reaches it. -/
structure Arrives (runSeed : UInt64) (name : String) (synchronizers : Synchronizers)
    (arrival? : Option Arrival) (performed : Synchronizers × Option (String × Nat)) : Prop where
  change : performed.1.find? name =
    arrival?.elim (synchronizers.find? name) (·.change runSeed name (synchronizers.find? name))
  choice : choicesOf name performed.2.toList =
    (arrival?.bind (·.choice? (synchronizers.find? name))).toList

namespace Arrives

variable {name : String}

theorem update (synchronizers : Synchronizers) (request : StreamRequest) :
    Arrives runSeed name synchronizers (some (.asking request))
      (synchronizers.ask name request) where
  change := (find?_update synchronizers name name request.change).trans (if_pos rfl)
  choice := by
    show choicesOf name ((synchronizers.find? name).bind _).toList =
      ((synchronizers.find? name).bind request.choice?).toList
    cases synchronizers.find? name with
    | none => rfl
    | some synchronizer => cases found : request.choice? synchronizer <;> simp [choicesOf, found]

theorem other {other : String} (differ : other ≠ name) (request : StreamRequest) :
    Arrives runSeed name synchronizers none (synchronizers.ask other request) where
  change := (find?_update synchronizers other name request.change).trans (if_neg differ)
  choice := by
    show choicesOf name ((synchronizers.find? other).bind _).toList = []
    cases synchronizers.find? other with
    | none => rfl
    | some synchronizer =>
        cases found : request.choice? synchronizer <;> simp [choicesOf, found, differ]

theorem missing (missing : synchronizers.find? name = none) (request : StreamRequest) :
    Arrives runSeed name synchronizers none (synchronizers.ask name request) where
  change := by
    show ((synchronizers.update? name request.change).getD synchronizers).find? name = _
    rw [find?_update, if_pos rfl, missing]
    rfl
  choice := by
    show choicesOf name ((synchronizers.find? name).bind _).toList = []
    rw [missing]
    rfl

end Arrives

/-- What of a request reaches a synchronizer is all that it does to it. -/
theorem Follows.arrives (follows : Follows runSeed earlier synchronizers) (name : String)
    (request : Request) :
    Arrives runSeed name synchronizers (request.arrival? name earlier)
      (request.perform synchronizers) := by
  cases request with
  | activate other kind =>
      refine ⟨(find?_activate synchronizers other name kind).trans ?_, ?_⟩
      · rw [Request.arrival?, ← follows.made, follows.runSeed]
        by_cases same : other = name
        · subst same
          cases synchronizers.find? other <;> simp [Arrival.change]
        · simp [same]
      · rw [Request.arrival?]
        split <;> rfl
  | deactivate => exact ⟨rfl, rfl⟩
  | reseed other seed =>
      refine ⟨(find?_update synchronizers other name _).trans ?_, ?_⟩
      · rw [Request.arrival?, ← follows.made]
        by_cases same : other = name
        · subst same
          rw [follows.runSeed]
          cases synchronizers.find? other <;> simp [Arrival.change]
        · simp [same]
      · rw [Request.arrival?]
        split <;> rfl
  | named other request =>
      rw [Request.arrival?, Request.perform]
      by_cases same : other = name
      · subst same
        cases made : isMade other earlier with
        | true => simpa using Arrives.update synchronizers request
        -- Nothing reaches a synchronizer before it is made.
        | false => simpa using Arrives.missing (follows.isMade_eq_false.mp made) request
      · simpa [same] using Arrives.other same request
  | active request =>
      rw [follows.perform_active, Request.arrival?]
      cases lastActive? earlier with
      | none => exact ⟨rfl, rfl⟩
      | some other =>
          by_cases same : other = name
          · subst same
            simpa using Arrives.update synchronizers request
          · simpa [same] using Arrives.other same request

/-! ### Runs of requests -/

/-- A synchronizer chooses what it chooses alone. -/
theorem Follows.choicesOf_choices (follows : Follows runSeed earlier synchronizers) (name : String)
    (requests : List Request) :
    choicesOf name (synchronizers.choices requests) =
      chooseAlone runSeed name (synchronizers.find? name) (arrivals name earlier requests) := by
  induction requests generalizing earlier synchronizers with
  | nil => rfl
  | cons request requests inductionHypothesis =>
      have arrives := follows.arrives name request
      have later := inductionHypothesis (follows.perform request)
      -- What reaches the name next is told from `earlier`, which has grown by the request.
      rw [arrives.change] at later
      rw [Synchronizers.choices, arrivals, choicesOf, List.filterMap_append]
      show choicesOf name _ ++ choicesOf name _ = _
      rw [arrives.choice, later]
      cases request.arrival? name earlier <;> rfl

/-- The choices of a synchronizer depend only on what reaches it: they are the same in two runs with
one seed in which the same reaches it, whatever else is asked for. The active name is always that
of a synchronizer. -/
theorem choicesOf_eq_of_arrivals (runSeed : UInt64) (name : String) (first second : List Request)
    (same : arrivals name [] first = arrivals name [] second) :
    choicesOf name ((Synchronizers.fresh runSeed).choices first) =
        choicesOf name ((Synchronizers.fresh runSeed).choices second) ∧
      ∀ requests active, ((Synchronizers.fresh runSeed).behind requests).activeName? = some active →
        ∃ synchronizer,
          ((Synchronizers.fresh runSeed).behind requests).find? active = some synchronizer := by
  have follows := Follows.fresh runSeed
  refine ⟨?_, fun requests active found => (follows.behind requests).exists_active found⟩
  rw [follows.choicesOf_choices, follows.choicesOf_choices, same]

end Requests

/-! ### Two runs in which the same reaches a deck

The second run makes the other synchronizer first, asks the deck as the active one, and activates it
again as if it were of another kind. -/

namespace Interleaved

def first : List Request :=
  [.activate "deal" .deck, .named "deal" (.next 3), .activate "other" .ordered, .active (.next 2),
    .reseed "deal" "again", .named "deal" .step, .named "deal" (.next 3)]

def second : List Request :=
  [.activate "other" .locked, .named "deal" .pin, .active (.next 4), .activate "deal" .deck,
    .active (.next 3), .deactivate, .active (.next 5), .reseed "deal" "again",
    .activate "deal" .ordered, .active .step, .active (.next 3)]

theorem arrivals_eq : arrivals "deal" [] first = arrivals "deal" [] second := rfl

theorem choicesOf_eq :
    arrivals "deal" [] first = arrivals "deal" [] second ∧
      choicesOf "deal" ((Synchronizers.fresh 7).choices first) =
        choicesOf "deal" ((Synchronizers.fresh 7).choices second) ∧
      ∀ requests active, ((Synchronizers.fresh 7).behind requests).activeName? = some active →
        ∃ synchronizer,
          ((Synchronizers.fresh 7).behind requests).find? active = some synchronizer :=
  ⟨arrivals_eq, choicesOf_eq_of_arrivals 7 "deal" first second arrivals_eq⟩

end Interleaved

end SeededText.Choice
