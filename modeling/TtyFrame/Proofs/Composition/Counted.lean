import TtyFrame.Composition.Counted
import TtyFrame.Key.Xterm
import TtyFrame.Proofs.Composition.Script

/-! Deletions whose counts are machine words. The text that is not sent yet never takes more
than was asked for, but the keys for the rest are counted together with those behind the
cursor. That sum may run over, and a list of so many keys may be more than an object can be. -/

set_option autoImplicit false

namespace TtyFrame.Composition

theorem popCounted_eq {wanted gone : Nat} (fits : wanted ≤ Word.largest) (within : gone ≤ wanted)
    (text : List Char) :
    popCounted wanted gone text =
      .ok (text.drop (wanted - gone), gone + min (wanted - gone) text.length) := by
  induction text generalizing gone with
  | nil => simp [popCounted]
  | cons c rest ih =>
      rw [popCounted]
      by_cases more : gone < wanted
      · have step : wanted - gone = wanted - (gone + 1) + 1 := by omega
        rw [if_pos more, Word.add_bind (by omega), ih more, step, List.drop_succ_cons,
          List.length_cons]
        congr 2
        omega
      · have reached : wanted - gone = 0 := by omega
        rw [if_neg more, reached, List.drop_zero, Nat.zero_min, Nat.add_zero]

theorem Accumulator.deleteCounted_eq (acc : Accumulator) {count : Nat}
    (fits : count ≤ Word.largest) : acc.deleteCounted count = .ok (acc.deleteBefore count) := by
  have popped := popCounted_eq fits (Nat.zero_le count) acc.text.reverse
  simp only [Nat.sub_zero, Nat.zero_add, List.length_reverse, List.drop_reverse] at popped
  rw [Accumulator.deleteCounted, popped]
  simp only [bind, Except.bind, pure, Except.pure, List.reverse_reverse, Accumulator.deleteBefore]

namespace Session

theorem absorbCounted_eq (session : Session) {before : Nat} (fits : before ≤ Word.largest)
    (after : Nat) :
    session.absorbCounted before after = .ok (session.absorbDeletion before after) := by
  cases session with
  | flag active => cases active <;> rfl
  | buffered pending =>
      have absorbed : (pending.deleteBefore before).2 ≤ before := Nat.min_le_left ..
      rw [absorbCounted, pending.deleteCounted_eq fits]
      simp only [bind, Except.bind, absorbDeletion]
      split
      · rfl
      · rw [Word.sub, if_pos absorbed]
        rfl

/-- The number of keys that an event leaves for the terminal uncounted. A deletion leaves none
as long as some text that is not sent yet is left, or a composition is open that is kept by a
flag alone. -/
def keysLeft (session : Session) : Event → Nat
  | .deleteSurrounding before after =>
    if session ≠ .flag true ∧ session.pendingText.length ≤ before then
      before - session.pendingText.length + after
    else 0
  | _ => 0

private theorem absorbDeletion_some {session : Session} (whole : session.Whole)
    (before after : Nat) :
    (session.absorbDeletion before after).2 =
      if session ≠ .flag true ∧ session.pendingText.length ≤ before then
        some ⟨before - session.pendingText.length, after⟩
      else none := by
  cases session with
  | flag active => cases active <;> simp [absorbDeletion, pendingText]
  | buffered pending =>
      rw [absorbDeletion_buffered whole]
      simp only [pendingText, ne_eq, reduceCtorEq, not_false_eq_true, true_and,
        List.take_eq_nil_iff]
      by_cases past : pending.text.length ≤ before
      · have empty : pending.text.length - before = 0 ∨ pending.text = [] := .inl (by omega)
        rw [if_pos empty, if_pos past, Nat.min_eq_right past]
      · have kept : ¬ (pending.text.length - before = 0 ∨ pending.text = []) := by
          rintro (none | empty)
          · omega
          · exact past (by simp [empty])
        rw [if_neg kept, if_neg past]

/-- A deletion ends as it does with unbounded counts, unless its keys cannot be counted or a
list of them is too large. -/
theorem deleteCounted_eq {session : Session} (whole : session.Whole) (width : Nat)
    (encoder : LogicalEncoder) {before : Nat} (fits : before ≤ Word.largest) (after : Nat) :
    let keys := session.keysLeft (.deleteSurrounding before after)
    session.deleteCounted width encoder before after =
      if Word.largest < keys then .error .overflow
      else if Word.largestSize < keys * width then .error .capacity
      else .ok (session.deleteSurrounding encoder before after) := by
  have left := absorbDeletion_some whole before after
  dsimp only
  rw [deleteCounted, session.absorbCounted_eq fits, deleteSurrounding, keysLeft]
  generalize session.absorbDeletion before after = absorbed at left ⊢
  obtain ⟨next, deletion⟩ := absorbed
  by_cases leaves : session ≠ .flag true ∧ session.pendingText.length ≤ before
  · rw [if_pos leaves] at left ⊢
    obtain rfl : deletion = _ := left
    change (Word.add _ _ >>= fun keys => Word.reserve keys width >>= fun _ => pure _) = _
    by_cases counted : before - session.pendingText.length + after ≤ Word.largest
    · rw [Word.add_bind counted, if_neg (Nat.not_lt.mpr counted)]
      by_cases room : (before - session.pendingText.length + after) * width ≤ Word.largestSize
      · rw [Word.reserve_bind room, if_neg (Nat.not_lt.mpr room)]
        rfl
      · rw [Word.reserve, if_neg room, if_pos (Nat.lt_of_not_le room)]
        rfl
    · rw [Word.add, if_neg counted, if_pos (Nat.lt_of_not_le counted)]
      rfl
  · rw [if_neg leaves] at left ⊢
    obtain rfl : deletion = none := left
    rw [if_neg (Nat.not_lt_zero _), Nat.zero_mul, if_neg (Nat.not_lt_zero _)]
    rfl

end Session

/-- The larger count of a deletion; other events count nothing. -/
def Event.count : Event → Nat
  | .deleteSurrounding before after => max before after
  | _ => 0

theorem Session.stepCounted_eq {session : Session} (whole : session.Whole) (width : Nat)
    (encoder : LogicalEncoder) {event : Event} (inWord : event.count ≤ Word.largest) :
    session.stepCounted width encoder event =
      if Word.largest < session.keysLeft event then .error .overflow
      else if Word.largestSize < session.keysLeft event * width then .error .capacity
      else .ok (session.step encoder event) := by
  cases event with
  | deleteSurrounding before after =>
      have fits : before ≤ Word.largest := Nat.le_trans (Nat.le_max_left ..) inWord
      exact deleteCounted_eq whole width encoder fits after
  | _ =>
      simp only [keysLeft, Nat.zero_mul, Nat.not_lt_zero, if_false]
      rfl

/-- In every session that a run reaches, under either strategy, a deletion runs over exactly
if the keys that it leaves for the terminal are more than the largest word. It is stopped for
its room if they can be counted, but a list of them would be larger than an object can be.
Every other deletion ends as it does with unbounded counts. The text never takes more than is
to go before the cursor. -/
theorem deletion_runs_over_iff (strategy : Strategy) (script : List (LogicalEncoder × Event))
    (encoder : LogicalEncoder) {before : Nat} (inWord : before ≤ Word.largest)
    (after width : Nat) :
    let session := ((Session.initial strategy).follow script).1
    let outcome := session.deleteCounted width encoder before after
    let keys := session.keysLeft (.deleteSurrounding before after)
    (outcome = .error .overflow ↔ Word.largest < keys) ∧
      (outcome = .error .capacity ↔ keys ≤ Word.largest ∧ Word.largestSize < keys * width) ∧
      (keys ≤ Word.largest → keys * width ≤ Word.largestSize →
        outcome = .ok (session.deleteSurrounding encoder before after)) ∧
      ∀ pending, session = .buffered pending →
        ∃ rest absorbed, pending.deleteCounted before = .ok (rest, absorbed) ∧
          absorbed = min before pending.text.length ∧ absorbed ≤ before := by
  intro session outcome keys
  have whole : session.Whole := Session.follow_whole (Session.initial_whole strategy) script
  have counted : outcome =
      if Word.largest < keys then .error .overflow
      else if Word.largestSize < keys * width then .error .capacity
      else .ok (session.deleteSurrounding encoder before after) :=
    Session.deleteCounted_eq whole width encoder inWord after
  refine ⟨?_, ?_, fun few small => ?_, fun pending _ => ?_⟩
  · rw [counted]
    split
    · next many => exact iff_of_true rfl many
    · next few =>
      refine iff_of_false ?_ few
      split <;> nofun
  · rw [counted]
    split
    · next many => exact iff_of_false nofun fun both => Nat.not_lt.mpr both.1 many
    · next few =>
      split
      · next large => exact iff_of_true rfl ⟨Nat.le_of_not_lt few, large⟩
      · next small => exact iff_of_false nofun fun both => small both.2
  · rw [counted, if_neg (Nat.not_lt.mpr few), if_neg (Nat.not_lt.mpr small)]
  · exact ⟨_, _, pending.deleteCounted_eq inWord, rfl, Nat.min_le_left ..⟩

/-- Two characters not sent yet. As many to go before the cursor as a word can say, and three
behind it, cannot be counted; with two behind it they can, and are too many for a list. -/
theorem deletion_runs_over_composed :
    let script : List (LogicalEncoder × Event) := [(refusing, .compose "ni")]
    let session := ((Session.initial .buffered).follow script).1
    let delete := session.deleteCounted Outgoing.width refusing
    Word.largest ≤ Word.largest ∧ delete Word.largest 3 = .error .overflow ∧
      delete Word.largest 2 = .error .capacity ∧ delete 4 1 = .ok (.buffered {}, ⟨true, []⟩) := by
  intro script session delete
  have result (before : Nat) (inWord : before ≤ Word.largest) (after : Nat) :=
    deletion_runs_over_iff .buffered script refusing inWord after Outgoing.width
  have large : Word.largest ≤ Word.largest := Nat.le_refl _
  have three := (result _ large 3).1.mpr (by decide)
  have two := (result _ large 2).2.1.mpr (by decide)
  have few := (result 4 (by decide) 1).2.2.1 (by decide) (by decide)
  exact ⟨large, three, two, few.trans (congrArg Except.ok (by decide))⟩

/-- A deletion of a word's worth of characters before the cursor and one behind it. -/
theorem largest_deletion_runs_over :
    ¬ ∀ (strategy : Strategy) (script : List (LogicalEncoder × Event)) (encoder : LogicalEncoder)
        (before after : Nat), before ≤ Word.largest → after ≤ Word.largest →
      ((Session.initial strategy).follow script).1.deleteCounted Outgoing.width encoder before
        after ≠ .error .overflow := by
  intro claimed
  exact claimed .flag [] refusing Word.largest 1 (by decide) (by decide) rfl

end TtyFrame.Composition
