import Mathlib.Data.List.Nodup
import TtyFrame.Session

/-! What a register of listeners has been through. Listeners that are told of a change may
register others and take some away, themselves included, before the next one is told. The
history alone says who is registered at any moment, and with that what every removal answers
and who is told in every round. -/

set_option autoImplicit false

namespace TtyFrame.Listeners

/-- What a listener asks of the register while it is told of a change. How it goes on may
depend on the answers. -/
inductive Reaction (τ : Type) where
  | done
  | add (listener : τ) (next : ListenerId → Reaction τ)
  | remove (id : ListenerId) (next : Bool → Reaction τ)

inductive Operation (τ : Type) where
  | add (listener : τ)
  | remove (id : ListenerId)
  | notify (change : BufferChange)

inductive Event (τ : Type) where
  | added (id : ListenerId) (listener : τ)
  | removed (id : ListenerId) (found : Bool)
  | told (listener : τ) (change : BufferChange)

/-- A register with its history, oldest first. -/
structure Chronicle (τ : Type) where
  listeners : Listeners τ := {}
  history : List (Event τ) := []

variable {τ : Type}

namespace Chronicle

def note (chronicle : Chronicle τ) (event : Event τ) : Chronicle τ :=
  { chronicle with history := chronicle.history ++ [event] }

def add (chronicle : Chronicle τ) (listener : τ) : Chronicle τ × ListenerId :=
  let (listeners, id) := chronicle.listeners.add listener
  ({ listeners, history := chronicle.history ++ [.added id listener] }, id)

def remove (chronicle : Chronicle τ) (id : ListenerId) : Chronicle τ × Bool :=
  let (listeners, found) := chronicle.listeners.remove id
  ({ listeners, history := chronicle.history ++ [.removed id found] }, found)

def react (chronicle : Chronicle τ) : Reaction τ → Chronicle τ
  | .done => chronicle
  | .add listener next =>
    (chronicle.add listener).1.react (next (chronicle.add listener).2)
  | .remove id next => (chronicle.remove id).1.react (next (chronicle.remove id).2)

/-- Tells a listener of a change. What it does depends on all that has happened so far. -/
def tell (reaction : List (Event τ) → τ → BufferChange → Reaction τ) (change : BufferChange)
    (chronicle : Chronicle τ) (listener : τ) : Chronicle τ :=
  (chronicle.note (.told listener change)).react (reaction chronicle.history listener change)

def operate (reaction : List (Event τ) → τ → BufferChange → Reaction τ)
    (chronicle : Chronicle τ) : Operation τ → Chronicle τ
  | .add listener => (chronicle.add listener).1
  | .remove id => (chronicle.remove id).1
  | .notify change => chronicle.listeners.notify (tell reaction change) chronicle

def follow (reaction : List (Event τ) → τ → BufferChange → Reaction τ)
    (chronicle : Chronicle τ) (operations : List (Operation τ)) : Chronicle τ :=
  operations.foldl (operate reaction) chronicle

end Chronicle

def Event.takesAway (id : ListenerId) : Event τ → Bool
  | .removed other _ => other = id
  | .added _ _ | .told _ _ => false

def Event.added? : Event τ → Option ListenerId
  | .added id _ => some id
  | .removed _ _ | .told _ _ => none

def Event.told? : Event τ → Option (τ × BufferChange)
  | .told listener change => some (listener, change)
  | .added _ _ | .removed _ _ => none

/-- The ids that were handed out, in order. -/
def handedOut (history : List (Event τ)) : List ListenerId := history.filterMap Event.added?

/-- Who was told of what, in order. -/
def toldIn (history : List (Event τ)) : List (τ × BufferChange) := history.filterMap Event.told?

/-- The entries that were added and not taken away since, in the order of their addition. -/
def standing : List (Event τ) → List (ListenerId × τ)
  | [] => []
  | .added id listener :: later =>
    if later.any (Event.takesAway id) then standing later else (id, listener) :: standing later
  | .removed _ _ :: later | .told _ _ :: later => standing later

/-- The number of an id as a word of 64 bits. -/
def word (id : ListenerId) : UInt64 := UInt64.ofNat id.number

section Standing

private theorem standing_append (first second : List (Event τ)) :
    standing (first ++ second) =
      (standing first).filter (fun entry => !second.any (Event.takesAway entry.1)) ++
        standing second := by
  induction first with
  | nil => rfl
  | cons event rest ih =>
      cases event with
      | added id listener =>
          simp only [List.cons_append, standing, List.any_append, ih]
          cases gone : rest.any (Event.takesAway id) <;>
            cases later : second.any (Event.takesAway id) <;> simp [later]
      | removed id found => exact ih
      | told listener change => exact ih

private theorem standing_added (history : List (Event τ)) (id : ListenerId) (listener : τ) :
    standing (history ++ [.added id listener]) = standing history ++ [(id, listener)] := by
  simp [standing_append, standing, Event.takesAway]

private theorem standing_removed (history : List (Event τ)) (id : ListenerId) (found : Bool) :
    standing (history ++ [.removed id found]) = (standing history).filter (·.1 ≠ id) := by
  simp [standing_append, standing, Event.takesAway, eq_comm]

private theorem standing_told (history : List (Event τ)) (listener : τ) (change : BufferChange) :
    standing (history ++ [.told listener change]) = standing history := by
  simp [standing_append, standing, Event.takesAway]

private theorem standing_handedOut (history : List (Event τ)) :
    ((standing history).map Prod.fst).Sublist (handedOut history) := by
  induction history with
  | nil => exact .slnil
  | cons event rest ih =>
      cases event with
      | added id listener =>
          simp only [standing]
          split
          · exact ih.cons id
          · exact ih.cons_cons id
      | removed id found => exact ih
      | told listener change => exact ih

private theorem filter_ne_eq_eraseP {entries : List (ListenerId × τ)}
    (unique : (entries.map Prod.fst).Nodup) (id : ListenerId) :
    entries.filter (·.1 ≠ id) = entries.eraseP (·.1 = id) := by
  induction entries with
  | nil => rfl
  | cons entry rest ih =>
      obtain ⟨absent, others⟩ := List.nodup_cons.mp unique
      by_cases same : entry.1 = id
      · have kept : ∀ other ∈ rest, decide (other.1 ≠ id) = true := by
          intro other member
          refine decide_eq_true fun again => absent ?_
          exact List.mem_map.mpr ⟨other, member, again.trans same.symm⟩
        rw [List.filter_cons_of_neg (by simp [same]), List.eraseP_cons_of_pos (by simp [same]),
          List.filter_eq_self.mpr kept]
      · rw [List.filter_cons_of_pos (by simp [same]), List.eraseP_cons_of_neg (by simp [same]),
          ih others]

private theorem remove_found_iff (listeners : Listeners τ) (id : ListenerId) :
    (listeners.remove id).2 = true ↔ id ∈ listeners.entries.map Prod.fst := by
  have found : (listeners.remove id).2 = true ↔
      (listeners.entries.filter (·.1 ≠ id)).length ≠ listeners.entries.length := by
    simp [remove]
  rw [found, Ne, List.length_filter_eq_length_iff]
  simp

private theorem word_injOn {first second : ListenerId} (low : first.number < UInt64.size)
    (bounded : second.number < UInt64.size) (same : word first = word second) :
    first = second := by
  have numbers := congrArg UInt64.toNat same
  rw [word, word, UInt64.toNat_ofNat_of_lt' low, UInt64.toNat_ofNat_of_lt' bounded] at numbers
  exact congrArg ListenerId.mk numbers

end Standing

/-- The register is what the history says, and every removal was answered by it. -/
structure Sound (chronicle : Chronicle τ) : Prop where
  entries : chronicle.listeners.entries = standing chronicle.history
  handed : handedOut chronicle.history =
    (List.range chronicle.listeners.next).map ListenerId.mk
  answered : ∀ place id found, chronicle.history[place]? = some (.removed id found) →
    (found = true ↔ id ∈ (standing (chronicle.history.take place)).map Prod.fst)

namespace Sound

variable {chronicle : Chronicle τ}

private theorem answered_concat (sound : Sound chronicle) {event : Event τ}
    (last : ∀ id found, event = .removed id found →
      (found = true ↔ id ∈ (standing chronicle.history).map Prod.fst))
    (place : Nat) (id : ListenerId) (found : Bool)
    (here : (chronicle.history ++ [event])[place]? = some (.removed id found)) :
    found = true ↔ id ∈ (standing ((chronicle.history ++ [event]).take place)).map Prod.fst := by
  -- All places but the last look back on what they looked back on before.
  by_cases earlier : place < chronicle.history.length
  · rw [List.getElem?_append_left earlier] at here
    rw [List.take_append_of_le_length (Nat.le_of_lt earlier)]
    exact sound.answered place id found here
  · obtain ⟨within, same⟩ := List.getElem?_eq_some_iff.mp here
    rw [List.length_append, List.length_singleton] at within
    obtain rfl : place = chronicle.history.length := by omega
    rw [List.take_left]
    rw [List.getElem_append_right (Nat.le_refl _)] at same
    simp only [Nat.sub_self, List.getElem_cons_zero] at same
    exact last id found same

theorem unique (sound : Sound chronicle) : (handedOut chronicle.history).Nodup := by
  rw [sound.handed]
  refine List.Nodup.map (fun first second same => ?_) List.nodup_range
  exact congrArg ListenerId.number same

theorem number_lt (sound : Sound chronicle) :
    ∀ id ∈ handedOut chronicle.history, id.number < (handedOut chronicle.history).length := by
  rw [sound.handed]
  intro id member
  obtain ⟨number, within, rfl⟩ := List.mem_map.mp member
  rw [List.length_map, List.length_range]
  exact List.mem_range.mp within

/-- At no moment have there been two entries with one id. -/
theorem keys_unique (sound : Sound chronicle) (place : Nat) :
    ((standing (chronicle.history.take place)).map Prod.fst).Nodup := by
  refine (standing_handedOut _).nodup (List.Sublist.nodup ?_ sound.unique)
  exact (List.take_sublist place chronicle.history).filterMap _

theorem add (sound : Sound chronicle) (listener : τ) : Sound (chronicle.add listener).1 where
  entries := by
    change chronicle.listeners.entries ++ _ = standing (chronicle.history ++ _)
    rw [standing_added, sound.entries]
  handed := by
    change handedOut (chronicle.history ++ _) = (List.range (chronicle.listeners.next + 1)).map _
    rw [handedOut, List.filterMap_append, ← handedOut, sound.handed, List.range_succ,
      List.map_append]
    rfl
  answered := sound.answered_concat nofun

theorem remove (sound : Sound chronicle) (id : ListenerId) :
    Sound (chronicle.remove id).1 where
  entries := by
    change chronicle.listeners.entries.filter _ = standing (chronicle.history ++ _)
    rw [standing_removed, sound.entries]
  handed := by
    change handedOut (chronicle.history ++ _) = (List.range chronicle.listeners.next).map _
    rw [handedOut, List.filterMap_append, ← handedOut, sound.handed]
    exact List.append_nil _
  answered := by
    refine sound.answered_concat fun other found same => ?_
    obtain ⟨rfl, rfl⟩ := Event.removed.inj same
    rw [← sound.entries]
    exact remove_found_iff chronicle.listeners id

private theorem note_told (sound : Sound chronicle) (listener : τ) (change : BufferChange) :
    Sound (chronicle.note (.told listener change)) where
  entries := by
    change chronicle.listeners.entries = standing (chronicle.history ++ _)
    rw [standing_told, sound.entries]
  handed := by
    change handedOut (chronicle.history ++ _) = (List.range chronicle.listeners.next).map _
    rw [handedOut, List.filterMap_append, ← handedOut, sound.handed]
    exact List.append_nil _
  answered := sound.answered_concat nofun

theorem react (sound : Sound chronicle) (reaction : Reaction τ) :
    Sound (chronicle.react reaction) := by
  induction reaction generalizing chronicle with
  | done => exact sound
  | add listener next ih => exact ih _ (sound.add listener)
  | remove id next ih => exact ih _ (sound.remove id)

variable (reaction : List (Event τ) → τ → BufferChange → Reaction τ)

theorem tell (sound : Sound chronicle) (change : BufferChange) (listener : τ) :
    Sound (chronicle.tell reaction change listener) :=
  (sound.note_told listener change).react _

theorem tellAll (sound : Sound chronicle) (change : BufferChange) (listeners : List τ) :
    Sound (listeners.foldl (Chronicle.tell reaction change) chronicle) := by
  induction listeners generalizing chronicle with
  | nil => exact sound
  | cons listener rest ih => exact ih (sound.tell reaction change listener)

theorem operate (sound : Sound chronicle) (operation : Operation τ) :
    Sound (chronicle.operate reaction operation) := by
  cases operation with
  | add listener => exact sound.add listener
  | remove id => exact sound.remove id
  | notify change => exact sound.tellAll reaction change _

theorem follow (sound : Sound chronicle) (operations : List (Operation τ)) :
    Sound (chronicle.follow reaction operations) := by
  induction operations generalizing chronicle with
  | nil => exact sound
  | cons operation rest ih => exact ih (sound.operate reaction operation)

end Sound

theorem initial_sound : Sound ({} : Chronicle τ) where
  entries := rfl
  handed := rfl
  answered _ _ _ here := by simp at here

section Rounds

variable (reaction : List (Event τ) → τ → BufferChange → Reaction τ)

/-- Whatever a listener does, nobody is told of it. -/
theorem react_history (chronicle : Chronicle τ) (reaction : Reaction τ) :
    ∃ events, (chronicle.react reaction).history = chronicle.history ++ events ∧
      toldIn events = [] := by
  induction reaction generalizing chronicle with
  | done => exact ⟨[], (List.append_nil _).symm, rfl⟩
  | add listener next ih =>
      obtain ⟨events, grown, quiet⟩ := ih _ (chronicle.add listener).1
      exact ⟨_ :: events, grown.trans (List.append_assoc ..), quiet⟩
  | remove id next ih =>
      obtain ⟨events, grown, quiet⟩ := ih _ (chronicle.remove id).1
      exact ⟨_ :: events, grown.trans (List.append_assoc ..), quiet⟩

private theorem tellAll_history (chronicle : Chronicle τ) (change : BufferChange)
    (listeners : List τ) :
    ∃ events,
      (listeners.foldl (Chronicle.tell reaction change) chronicle).history =
        chronicle.history ++ events ∧
      toldIn events = listeners.map fun listener => (listener, change) := by
  induction listeners generalizing chronicle with
  | nil => exact ⟨[], (List.append_nil _).symm, rfl⟩
  | cons listener rest ih =>
      obtain ⟨own, reacted, quiet⟩ := react_history (chronicle.note (.told listener change))
        (reaction chronicle.history listener change)
      obtain ⟨others, grown, told⟩ := ih (chronicle.tell reaction change listener)
      refine ⟨.told listener change :: (own ++ others), ?_, ?_⟩
      · rw [List.foldl_cons, grown, Chronicle.tell, reacted]
        simp only [Chronicle.note, List.append_assoc, List.cons_append, List.nil_append]
      · have split : toldIn (.told listener change :: (own ++ others)) =
            (listener, change) :: (toldIn own ++ toldIn others) := by
          simp [toldIn, Event.told?]
        rw [split, quiet, told]
        rfl

end Rounds

/-- Whatever is asked of a register and whatever its listeners do when they are told: no id is
handed out twice, nor are two the same as words of 64 bits as long as these suffice. A
removal finds an entry exactly if one with the id is registered at that moment, and takes
away that one only. A round tells those who are registered when it begins, each once, in the
order in which they were added. -/
theorem rounds_reach_registered (reaction : List (Event τ) → τ → BufferChange → Reaction τ)
    (operations : List (Operation τ)) :
    let chronicle := Chronicle.follow reaction {} operations
    let ids := handedOut chronicle.history
    ids.Nodup ∧ (ids.length ≤ UInt64.size → (ids.map word).Nodup) ∧
      chronicle.listeners.entries = standing chronicle.history ∧
      (∀ place id found, chronicle.history[place]? = some (.removed id found) →
        (found = true ↔ id ∈ (standing (chronicle.history.take place)).map Prod.fst) ∧
          standing (chronicle.history.take (place + 1)) =
            (standing (chronicle.history.take place)).eraseP (·.1 = id)) ∧
      ∀ change, ∃ round,
        (chronicle.operate reaction (.notify change)).history = chronicle.history ++ round ∧
          toldIn round = (standing chronicle.history).map fun entry => (entry.2, change) := by
  intro chronicle ids
  have sound : Sound chronicle := initial_sound.follow reaction operations
  refine ⟨sound.unique, fun fits => ?_, sound.entries, fun place id found here => ⟨?_, ?_⟩,
    fun change => ?_⟩
  · refine List.Nodup.map_on (fun first among second also same => ?_) sound.unique
    have below := sound.number_lt
    exact word_injOn (Nat.lt_of_lt_of_le (below first among) fits)
      (Nat.lt_of_lt_of_le (below second also) fits) same
  · exact sound.answered place id found here
  · have last : chronicle.history.take (place + 1) =
        chronicle.history.take place ++ [.removed id found] := by
      rw [List.take_add_one, here]
      rfl
    rw [last, standing_removed, filter_ne_eq_eraseP (sound.keys_unique place)]
  · obtain ⟨round, grown, told⟩ := tellAll_history reaction chronicle change
      chronicle.listeners.registered
    refine ⟨round, grown, ?_⟩
    rw [told, registered, List.map_map, sound.entries]
    rfl

/-- The first of two takes the second away and adds a third. The second is still told in the
round that is under way, and the third is told from the next one on. -/
example (change : BufferChange) :
    let reaction (history : List (Event Nat)) (listener : Nat) (_ : BufferChange) : Reaction Nat :=
      if listener = 1 ∧ history.length = 2 then
        .remove ⟨1⟩ fun _ => .add 3 fun _ => .done
      else .done
    toldIn (Chronicle.follow reaction {} [.add 1, .add 2, .notify change, .notify change]).history =
      [(1, change), (2, change), (1, change), (3, change)] := rfl

end TtyFrame.Listeners
