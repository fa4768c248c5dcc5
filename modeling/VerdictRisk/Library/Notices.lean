import Mathlib.Data.List.Nodup

/-!
# Notices of changes

An observer is told of the events of a stream, but not of an event with the key that it heard
last. The one thing to remember is the key of the last event, told or not. The rules here say what
a stream tells, what is remembered after it, when nothing is told twice, and what a lost memory
changes.
-/

namespace Notices

variable {Event Key : Type} [DecidableEq Key] (key : Event → Key)

/-- The events that an observer is told of, who heard a key last. -/
def told : Option Key → List Event → List Event
  | _, [] => []
  | last, event :: rest =>
    if last = some (key event) then told last rest else event :: told (some (key event)) rest

omit [DecidableEq Key] in
/-- The key heard last after a stream. -/
def heard : Option Key → List Event → Option Key
  | last, [] => last
  | _, event :: rest => heard (some (key event)) rest

variable {key}

/-- An event with the key heard last is passed over. -/
theorem told_repeated {last : Option Key} {event : Event} (repeated : last = some (key event))
    (rest : List Event) : told key last (event :: rest) = told key last rest := if_pos repeated

/-- Any other event is told. -/
theorem told_changed {last : Option Key} {event : Event} (changed : last ≠ some (key event))
    (rest : List Event) :
    told key last (event :: rest) = event :: told key (some (key event)) rest := if_neg changed

/-- What is told along two streams in turn. -/
theorem told_append (last : Option Key) (first second : List Event) :
    told key last (first ++ second) =
      told key last first ++ told key (heard key last first) second := by
  induction first generalizing last with
  | nil => rfl
  | cons event rest ih =>
    by_cases repeated : last = some (key event)
    · rw [List.cons_append, told_repeated repeated, told_repeated repeated, ih, heard, repeated]
    · rw [List.cons_append, told_changed repeated, told_changed repeated, ih, heard,
        List.cons_append]

omit [DecidableEq Key] in
/-- What is heard last is the key of the last event. -/
theorem heard_append (last : Option Key) (first second : List Event) :
    heard key last (first ++ second) = heard key (heard key last first) second := by
  induction first generalizing last with
  | nil => rfl
  | cons event rest ih => exact ih (some (key event))

/-- What is heard last is the key told last, if any was. -/
theorem heard_eq (last : Option Key) (events : List Event) :
    heard key last events = ((told key last events).getLast?.map key).or last := by
  induction events generalizing last with
  | nil => rfl
  | cons event rest ih =>
    rw [heard]
    by_cases repeated : last = some (key event)
    · rw [told_repeated repeated, ← repeated]
      exact ih last
    · rw [told_changed repeated, ih, List.getLast?_cons]
      cases (told key (some (key event)) rest).getLast? <;> rfl

/-- What is told are events of the stream. -/
theorem told_sublist (last : Option Key) (events : List Event) :
    (told key last events).Sublist events := by
  induction events generalizing last with
  | nil => exact .slnil
  | cons event rest ih =>
    by_cases repeated : last = some (key event)
    · rw [told_repeated repeated]
      exact (ih last).cons event
    · rw [told_changed repeated]
      exact (ih (some (key event))).cons_cons event

/-- Every key of the stream is told or was heard before. -/
theorem told_or_heard (last : Option Key) {events : List Event} {event : Event}
    (member : event ∈ events) :
    key event ∈ (told key last events).map key ∨ last = some (key event) := by
  induction events generalizing last with
  | nil => contradiction
  | cons first rest ih =>
    by_cases repeated : last = some (key first)
    · rw [told_repeated repeated]
      rcases List.mem_cons.mp member with same | later
      · right
        rw [repeated, same]
      · exact ih last later
    · rw [told_changed repeated, List.map_cons]
      rcases List.mem_cons.mp member with same | later
      · left
        rw [same]
        exact List.mem_cons_self
      · left
        rcases ih (some (key first)) later with found | same
        · exact List.mem_cons_of_mem _ found
        · rw [Option.some.inj same]
          exact List.mem_cons_self

/-- Of a stream of one key, something is told exactly when there is something and the key was not
heard last. -/
theorem told_of_key_iff {again : Key} {events : List Event}
    (single : ∀ event ∈ events, key event = again) (last : Option Key) :
    (∃ event ∈ told key last events, key event = again) ↔ events ≠ [] ∧ last ≠ some again := by
  induction events generalizing last with
  | nil => simp [told]
  | cons event rest ih =>
    rw [List.forall_mem_cons] at single
    obtain ⟨same, others⟩ := single
    by_cases repeated : last = some (key event)
    · rw [told_repeated repeated, ih others, repeated, same]
      simp
    · rw [told_changed repeated]
      rw [same] at repeated
      exact iff_of_true ⟨event, List.mem_cons_self, same⟩ ⟨by simp, repeated⟩

/-- An observer whose memory was lost is told the same exactly when the next event has another
key than the one that was forgotten. -/
theorem told_forgotten_iff (last : Option Key) (events : List Event) :
    told key none events = told key last events ↔
      ∀ event, events.head? = some event → last ≠ some (key event) := by
  cases events with
  | nil => exact iff_of_true rfl (by simp)
  | cons event rest =>
    rw [told_changed (by simp), List.head?_cons]
    by_cases repeated : last = some (key event)
    · rw [told_repeated repeated, ← repeated]
      refine iff_of_false (fun same => ?_) (by simp [repeated])
      have longer := congrArg List.length same
      simp at longer
    · rw [told_changed repeated]
      exact iff_of_true rfl (by simpa using repeated)

/-- No key comes back after another one. -/
def Settled (keys : List Key) : Prop :=
  ∀ again between, [again, between, again].Sublist keys → between = again

omit [DecidableEq Key] in
/-- Two keys are too few for one of them to come back. -/
theorem settled_of_short {keys : List Key} (short : keys.length ≤ 2) : Settled keys := by
  intro again between sub
  have longer := sub.length_le
  simp only [List.length_cons, List.length_nil] at longer
  omega

omit [DecidableEq Key] in
/-- A key that stays may be heard twice in a row. -/
theorem settled_repeated_iff (first : Key) (rest : List Key) :
    Settled (first :: first :: rest) ↔ Settled (first :: rest) := by
  constructor
  · intro settled again between sub
    exact settled again between (sub.cons first)
  · intro settled again between sub
    cases sub with
    | cons _ sub => exact settled again between sub
    | cons_cons _ sub =>
      cases sub with
      | cons _ sub => exact settled first between (sub.cons_cons first)
      | cons_cons _ sub => rfl

omit [DecidableEq Key] in
/-- A key that is followed by another must not come back. -/
theorem settled_changed_iff {first second : Key} (changed : first ≠ second) (rest : List Key) :
    Settled (first :: second :: rest) ↔ first ∉ second :: rest ∧ Settled (second :: rest) := by
  constructor
  · intro settled
    refine ⟨?_, fun again between sub => settled again between (sub.cons first)⟩
    intro member
    rcases List.mem_cons.mp member with same | later
    · exact changed same
    · have sub : [first, second, first].Sublist (first :: second :: rest) :=
        ((List.singleton_sublist.mpr later).cons_cons second).cons_cons first
      exact changed (settled first second sub).symm
  · rintro ⟨gone, settled⟩ again between sub
    cases sub with
    | cons _ sub => exact settled again between sub
    | cons_cons _ sub =>
      have member : first ∈ second :: rest := sub.subset (by simp)
      exact absurd member gone

/-- An observer who heard one key hears no key twice exactly when the stream, after that key,
brings none back. -/
theorem told_after_nodup_iff (first : Key) (events : List Event) :
    (first :: (told key (some first) events).map key).Nodup ↔
      Settled (first :: events.map key) := by
  induction events generalizing first with
  | nil => exact iff_of_true (by simp [told]) (settled_of_short (by simp))
  | cons event rest ih =>
    rw [List.map_cons]
    by_cases same : first = key event
    · rw [told_repeated (congrArg some same), ih first, same, settled_repeated_iff]
    · have changed : some first ≠ some (key event) := fun equal => same (Option.some.inj equal)
      rw [told_changed changed, List.map_cons, List.nodup_cons, ih (key event),
        settled_changed_iff same]
      refine and_congr_left fun _ => not_congr ?_
      rw [List.mem_cons, List.mem_cons]
      apply or_congr_right'
      intro other
      constructor
      · intro member
        exact ((told_sublist _ rest).map key).subset member
      · intro member
        obtain ⟨later, present, named⟩ := List.mem_map.mp member
        rcases told_or_heard (some (key event)) present with found | heard
        · rw [← named]
          exact found
        · rw [← named, Option.some.inj heard] at other
          exact absurd rfl other

/-- An observer who heard nothing before hears no key twice exactly when the stream brings none
back. -/
theorem told_nodup_iff (events : List Event) :
    ((told key none events).map key).Nodup ↔ Settled (events.map key) := by
  cases events with
  | nil => exact iff_of_true (by simp [told]) (settled_of_short (by simp))
  | cons event rest =>
    rw [told_changed (by simp), List.map_cons, List.map_cons]
    exact told_after_nodup_iff (key event) rest

end Notices
