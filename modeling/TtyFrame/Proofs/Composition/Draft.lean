import TtyFrame.Proofs.Composition.Counted

/-! A plain machine for composed text: its whole state is the text that is written and
not sent, with no span and no byte offset. A buffered session answers every run of
events as this machine does, up to a deletion whose keys have no room. -/

set_option autoImplicit false

namespace TtyFrame.Composition

open Text

/-! ## The machine -/

/-- Text that is written and not sent yet. -/
abbrev Draft := List Char

namespace Draft

/-- The sends of a text that is final: itself with its line ends made single, if there
is any. -/
def sends (text : List Char) : List Outgoing :=
  if text = [] then [] else [.text (String.ofList (normalizeChars text))]

/-- What a key stands for by itself: whether it is consumed, and what it sends. A
character that can be printed is sent as it is. -/
def ofKey (encoder : LogicalEncoder) (event : KeyEvent) (character : Option Char) :
    Bool × Option Outgoing :=
  match event.encode encoder with
  | .bytes bytes => (true, some (.bytes bytes))
  | .consumed => (true, none)
  | .unhandled =>
    match character.filter fun c => !isControl c with
    | some c => (true, some (.text (String.singleton c)))
    | none => (false, none)

/-- The keys of a deletion, backspaces first; the encoder may refuse either kind. -/
def deletionKeys (encoder : LogicalEncoder) (backspaces deletes : Nat) : List Outgoing :=
  (List.replicate backspaces LogicalKey.backspace ++
      List.replicate deletes LogicalKey.delete).filterMap
    fun key => (encoder key {}).map .bytes

/-- What an event makes of a draft, and the response to it. -/
def step (encoder : LogicalEncoder) (draft : Draft) : Event → Draft × Response
  | .compose text => (text.toList, ⟨true, []⟩)
  | .commit text => ([], ⟨true, sends text.toList⟩)
  | .finish => ([], ⟨true, sends draft⟩)
  | .deleteSurrounding before after =>
    let dropped := min before draft.length
    let kept := draft.take (draft.length - dropped)
    if kept ≠ [] then (kept, ⟨true, []⟩)
    else ([], ⟨true, deletionKeys encoder (before - dropped) after⟩)
  | .action action =>
    (draft, if action.isEnter then ⟨true, [.text "\r"]⟩ else ⟨false, []⟩)
  | .key event character =>
    match ofKey encoder event character with
    | (handled, none) => (draft, ⟨handled, []⟩)
    | (handled, some own) => ([], ⟨handled, sends draft ++ [own]⟩)
  | .setStrategy _ => (draft, ⟨false, []⟩)
  | .reset => ([], ⟨false, []⟩)

/-- Takes events in order, each with its encoder, and gives the response to each. -/
def follow (draft : Draft) : List (LogicalEncoder × Event) → Draft × List Response
  | [] => (draft, [])
  | (encoder, event) :: rest =>
    let (next, response) := step encoder draft event
    let (last, responses) := follow next rest
    (last, response :: responses)

end Draft

/-! ## Responses -/

theorem textResponse_eq (text : List Char) : textResponse text = ⟨true, Draft.sends text⟩ := by
  simp only [textResponse, Draft.sends, List.isEmpty_iff]
  split <;> rfl

private theorem keySends_eq_filterMap (encoder : LogicalEncoder) (key : LogicalKey) (count : Nat) :
    keySends encoder key count =
      (List.replicate count key).filterMap fun key => (encoder key {}).map .bytes := by
  unfold keySends
  cases encoded : encoder key {} with
  | none => simp [encoded]
  | some bytes => simp [encoded]

theorem deletion_sends_eq (deletion : Deletion) (encoder : LogicalEncoder) :
    deletion.sends encoder =
      Draft.deletionKeys encoder deletion.backspaces deletion.deletes := by
  simp only [Deletion.sends, Draft.deletionKeys, List.filterMap_append, keySends_eq_filterMap]

private theorem textResponse_printable {c : Char} (printable : isControl c = false) :
    textResponse [c] = ⟨true, [.text (String.singleton c)]⟩ := by
  -- A character that can be printed is no line end.
  have notLineFeed : '\n' ∉ [c] := by
    intro member
    obtain rfl := List.mem_singleton.mp member
    exact absurd printable (by decide)
  rw [textResponse_eq, Draft.sends, if_neg (List.cons_ne_nil c []), normalizeChars,
    if_neg notLineFeed, String.singleton_eq_ofList]

theorem keyResponse_eq (encoder : LogicalEncoder) (event : KeyEvent) (character : Option Char) :
    keyResponse encoder event character =
      ⟨(Draft.ofKey encoder event character).1,
        (Draft.ofKey encoder event character).2.toList⟩ := by
  unfold keyResponse Draft.ofKey
  cases event.encode encoder with
  | bytes bytes => rfl
  | consumed => rfl
  | unhandled =>
      cases character with
      | none => rfl
      | some c =>
          cases control : isControl c with
          | false => simp [Option.filter, control, textResponse_printable control]
          | true => simp [Option.filter, control]

/-! ## Sessions that stand for a draft -/

/-- A session stands for a draft: it is buffered, its span covers its text, and its text
is the draft. -/
structure Represents (session : Session) (draft : Draft) : Prop where
  whole : session.Whole
  buffered : ∃ pending, session = .buffered pending ∧ pending.text = draft

namespace Represents

theorem initial : Represents (.initial .buffered) [] :=
  ⟨Session.initial_whole .buffered, {}, rfl, rfl⟩

/-- One event takes a session and the draft it stands for to a session and its draft,
with one response. -/
theorem step {session : Session} {draft : Draft} (represents : Represents session draft)
    (encoder : LogicalEncoder) {event : Event} (stays : event ≠ .setStrategy .flag) :
    Represents (session.step encoder event).1 (Draft.step encoder draft event).1 ∧
      (session.step encoder event).2 = (Draft.step encoder draft event).2 := by
  have nextWhole := Session.step_whole represents.whole encoder event
  obtain ⟨whole, pending, rfl, rfl⟩ := represents
  cases event with
  | compose text =>
      refine ⟨⟨nextWhole, _, rfl, ?_⟩, rfl⟩
      rw [Accumulator.Whole.setComposing whole]
      rfl
  | commit text =>
      refine ⟨⟨nextWhole, {}, rfl, rfl⟩, ?_⟩
      simp only [Session.step, Session.commit, Accumulator.take,
        Accumulator.Whole.commit whole, textResponse_eq, Draft.step]
  | finish =>
      refine ⟨⟨nextWhole, {}, rfl, rfl⟩, ?_⟩
      simp only [Session.step, Session.finish, Accumulator.take, Accumulator.finish,
        textResponse_eq, Draft.step]
  | deleteSurrounding before after =>
      have kept : pending.text.length - min before pending.text.length =
          pending.text.length - before := by omega
      simp only [Session.step, Draft.step, Session.deleteSurrounding_buffered whole, kept,
        deletion_sends_eq, ite_not] at nextWhole ⊢
      split
      · exact ⟨⟨Accumulator.whole_empty, {}, rfl, rfl⟩, rfl⟩
      · exact ⟨⟨Accumulator.Whole.deleteBefore whole before, _, rfl, rfl⟩, rfl⟩
  | action action =>
      simp only [Session.step, Session.act, Draft.step]
      split <;> exact ⟨⟨whole, pending, rfl, rfl⟩, rfl⟩
  | key event character =>
      simp only [Session.step, Session.key_buffered, keyResponse_eq, Draft.step, Draft.sends]
      cases meaning : Draft.ofKey encoder event character with
      | mk handled own =>
          cases own with
          | none => exact ⟨⟨whole, pending, rfl, rfl⟩, rfl⟩
          | some own =>
              by_cases empty : pending.text = []
              · simp only [empty, Option.toList_some, reduceCtorEq, if_true, if_false]
                exact ⟨⟨whole, pending, rfl, empty⟩, rfl⟩
              · simp only [empty, Option.toList_some, reduceCtorEq, if_false]
                exact ⟨⟨Accumulator.whole_empty, {}, rfl, rfl⟩, rfl⟩
  | setStrategy strategy =>
      cases strategy with
      | buffered => exact ⟨⟨whole, pending, rfl, rfl⟩, rfl⟩
      | flag => exact absurd rfl stays
  | reset => exact ⟨⟨nextWhole, {}, rfl, rfl⟩, rfl⟩

theorem follow {session : Session} {draft : Draft} (represents : Represents session draft)
    {script : List (LogicalEncoder × Event)}
    (stays : ∀ entry ∈ script, entry.2 ≠ .setStrategy .flag) :
    Represents (session.follow script).1 (Draft.follow draft script).1 ∧
      (session.follow script).2 = (Draft.follow draft script).2 := by
  induction script generalizing session draft with
  | nil => exact ⟨represents, rfl⟩
  | cons entry rest ih =>
      obtain ⟨encoder, event⟩ := entry
      obtain ⟨next, response⟩ := represents.step encoder (stays _ List.mem_cons_self)
      obtain ⟨last, responses⟩ := ih next fun entry member =>
        stays entry (List.mem_cons_of_mem _ member)
      refine ⟨last, ?_⟩
      rw [Session.follow_cons, response, responses]
      rfl

end Represents

/-! ## Room for deletions -/

namespace Draft

/-- The number of keys that an event leaves for the terminal because the draft has no text
for them. -/
def keysLeft (draft : Draft) : Event → Nat
  | .deleteSurrounding before after =>
    if draft.length ≤ before then before - draft.length + after else 0
  | _ => 0

/-- The keys that an event leaves can be counted, and a list of them, each of so many bytes,
is no larger than an object can be. -/
def HasRoom (width : Nat) (draft : Draft) (event : Event) : Prop :=
  draft.keysLeft event ≤ Word.largest ∧ draft.keysLeft event * width ≤ Word.largestSize

/-- Each event of a run has room for its keys when the run comes to it. -/
def Roomy (width : Nat) (draft : Draft) : List (LogicalEncoder × Event) → Prop
  | [] => True
  | (encoder, event) :: rest =>
    draft.HasRoom width event ∧ Roomy width (step encoder draft event).1 rest

instance (width : Nat) (draft : Draft) (event : Event) : Decidable (draft.HasRoom width event) :=
  inferInstanceAs (Decidable (_ ∧ _))

instance decidableRoomy (width : Nat) :
    (draft : Draft) → (script : List (LogicalEncoder × Event)) →
      Decidable (draft.Roomy width script)
  | _, [] => .isTrue trivial
  | draft, (encoder, event) :: rest =>
    have := decidableRoomy width (step encoder draft event).1 rest
    inferInstanceAs (Decidable (_ ∧ _))

end Draft

namespace Session

variable {session : Session} {encoder : LogicalEncoder} {event : Event} {width : Nat}

private theorem followCounted_cons {outcome : Session × Response}
    (taken : session.stepCounted width encoder event = .ok outcome)
    (rest : List (LogicalEncoder × Event)) :
    session.followCounted width ((encoder, event) :: rest) =
      (outcome.1.followCounted width rest).map fun run => (run.1, outcome.2 :: run.2) := by
  rw [followCounted, taken]
  change (outcome.1.followCounted width rest >>= _) = _
  cases outcome.1.followCounted width rest <;> rfl

private theorem followCounted_error {trap : Trap}
    (stopped : session.stepCounted width encoder event = .error trap)
    (rest : List (LogicalEncoder × Event)) :
    session.followCounted width ((encoder, event) :: rest) = .error trap := by
  rw [followCounted, stopped]
  rfl

end Session

namespace Represents

variable {session : Session} {draft : Draft} (represents : Represents session draft)

include represents

theorem keysLeft (event : Event) : session.keysLeft event = draft.keysLeft event := by
  obtain ⟨-, pending, rfl, rfl⟩ := represents
  cases event with
  | deleteSurrounding before after =>
      simp [Session.keysLeft, Draft.keysLeft, Session.pendingText]
  | _ => rfl

private theorem stepCounted_of_hasRoom {width : Nat} (encoder : LogicalEncoder) {event : Event}
    (inWord : event.count ≤ Word.largest) (room : draft.HasRoom width event) :
    session.stepCounted width encoder event = .ok (session.step encoder event) := by
  rw [Session.stepCounted_eq represents.whole width encoder inWord, represents.keysLeft,
    if_neg (Nat.not_lt.mpr room.1), if_neg (Nat.not_lt.mpr room.2)]

private theorem stepCounted_of_not_hasRoom {width : Nat} (encoder : LogicalEncoder) {event : Event}
    (inWord : event.count ≤ Word.largest) (none : ¬ draft.HasRoom width event) :
    session.stepCounted width encoder event = .error .overflow ∨
      session.stepCounted width encoder event = .error .capacity := by
  rw [Session.stepCounted_eq represents.whole width encoder inWord, represents.keysLeft]
  by_cases many : Word.largest < draft.keysLeft event
  · exact .inl (if_pos many)
  · have large := Nat.lt_of_not_le fun small => none ⟨Nat.le_of_not_lt many, small⟩
    rw [if_neg many, if_pos large]
    exact .inr rfl

theorem followCounted_of_roomy {width : Nat} {script : List (LogicalEncoder × Event)}
    (stays : ∀ entry ∈ script, entry.2 ≠ .setStrategy .flag)
    (inWords : ∀ entry ∈ script, entry.2.count ≤ Word.largest) (roomy : draft.Roomy width script) :
    session.followCounted width script = .ok (session.follow script) := by
  induction script generalizing session draft with
  | nil => rfl
  | cons entry rest ih =>
      obtain ⟨encoder, event⟩ := entry
      obtain ⟨room, later⟩ := roomy
      have stay : event ≠ .setStrategy .flag := stays _ List.mem_cons_self
      have inWord : event.count ≤ Word.largest := inWords _ List.mem_cons_self
      have first := represents.stepCounted_of_hasRoom encoder inWord room
      have next := (represents.step encoder stay).1
      have rest := ih next (fun entry member => stays entry (List.mem_cons_of_mem _ member))
        (fun entry member => inWords entry (List.mem_cons_of_mem _ member)) later
      rw [Session.followCounted_cons first, rest, Session.follow_cons]
      rfl

theorem followCounted_of_not_roomy {width : Nat} {script : List (LogicalEncoder × Event)}
    (stays : ∀ entry ∈ script, entry.2 ≠ .setStrategy .flag)
    (inWords : ∀ entry ∈ script, entry.2.count ≤ Word.largest)
    (cramped : ¬ draft.Roomy width script) :
    session.followCounted width script = .error .overflow ∨
      session.followCounted width script = .error .capacity := by
  induction script generalizing session draft with
  | nil => exact absurd trivial cramped
  | cons entry rest ih =>
      obtain ⟨encoder, event⟩ := entry
      have stay : event ≠ .setStrategy .flag := stays _ List.mem_cons_self
      have inWord : event.count ≤ Word.largest := inWords _ List.mem_cons_self
      by_cases room : draft.HasRoom width event
      · have first := represents.stepCounted_of_hasRoom encoder inWord room
        have next := (represents.step encoder stay).1
        have later := ih next (fun entry member => stays entry (List.mem_cons_of_mem _ member))
          (fun entry member => inWords entry (List.mem_cons_of_mem _ member))
          fun later => cramped ⟨room, later⟩
        rw [Session.followCounted_cons first]
        exact later.imp (congrArg (Except.map _)) (congrArg (Except.map _))
      · exact (represents.stepCounted_of_not_hasRoom encoder inWord room).imp
          (Session.followCounted_error · rest) (Session.followCounted_error · rest)

end Represents

/-- While the strategy stays buffered, a run with machine words goes through exactly if each
deletion has room for the keys that it leaves when the run comes to it. Then the responses are
those of the plain machine, the text not sent is its draft, and there is no edit of that text
that does not fit. A deletion without room ends the run. -/
theorem followCounted_eq_draft (width : Nat) (script : List (LogicalEncoder × Event))
    (stays : ∀ entry ∈ script, entry.2 ≠ .setStrategy .flag)
    (inWords : ∀ entry ∈ script, entry.2.count ≤ Word.largest) :
    let run := (Session.initial .buffered).followCounted width script
    (Draft.Roomy width [] script → ∃ pending,
      run = .ok (.buffered pending, (Draft.follow [] script).2) ∧
        pending.text = (Draft.follow [] script).1 ∧ ∀ new, (pending.replaced? new).isSome) ∧
      (¬ Draft.Roomy width [] script → run = .error .overflow ∨ run = .error .capacity) := by
  refine ⟨fun roomy => ?_, Represents.initial.followCounted_of_not_roomy stays inWords⟩
  obtain ⟨⟨whole, pending, reached, text⟩, responses⟩ := Represents.initial.follow stays
  refine ⟨pending, ?_, text, fun new => ?_⟩
  · rw [Represents.initial.followCounted_of_roomy stays inWords roomy, ← reached, ← responses]
  · rw [reached] at whole
    rw [Accumulator.Whole.replaced? whole, Option.isSome_some]

/-- A deletion inside the composition, a key behind the text that is left, a deletion past
the composition with one kind of key refused, and a line end, each under an encoder. One
deletion of the largest word more, and the run ends. -/
theorem followCounted_deletions_and_keys :
    let erasing : LogicalEncoder := fun key _ => if key = .backspace then some [0x7F] else none
    let script : List (LogicalEncoder × Event) :=
      [(refusing, .compose "你好"), (refusing, .deleteSurrounding 1 0),
        (erasing, .key ⟨⟨45⟩, {}, true⟩ (some 'q')), (erasing, .compose "ab"),
        (erasing, .deleteSurrounding 3 2), (refusing, .compose "x\n"), (refusing, .finish)]
    (∀ entry ∈ script, entry.2 ≠ .setStrategy .flag) ∧
      (∀ entry ∈ script, entry.2.count ≤ Word.largest) ∧
      ∃ pending, (Session.initial .buffered).followCounted Outgoing.width script =
        .ok (.buffered pending, [⟨true, []⟩, ⟨true, []⟩, ⟨true, [.text "你", .text "q"]⟩,
          ⟨true, []⟩, ⟨true, [.bytes [0x7F]]⟩, ⟨true, []⟩, ⟨true, [.text "x\r"]⟩]) := by
  intro erasing script
  have stays : ∀ entry ∈ script, entry.2 ≠ .setStrategy .flag := by decide
  have inWords : ∀ entry ∈ script, entry.2.count ≤ Word.largest := by decide
  obtain ⟨pending, ended, -⟩ :=
    (followCounted_eq_draft Outgoing.width script stays inWords).1 (by decide)
  refine ⟨stays, inWords, pending, ended.trans ?_⟩
  exact congrArg (fun responses => Except.ok (Session.buffered pending, responses)) (by decide)

/-- The plain machine answers a deletion of a word's worth of characters and one behind the
cursor under an encoder that refuses every key, and sends nothing. -/
theorem largest_deletion_unanswered :
    ¬ ∀ script : List (LogicalEncoder × Event),
      (∀ entry ∈ script, entry.2 ≠ .setStrategy .flag) →
      (∀ entry ∈ script, entry.2.count ≤ Word.largest) →
      ∃ last, (Session.initial .buffered).followCounted Outgoing.width script =
        .ok (last, (Draft.follow [] script).2) := by
  intro claimed
  obtain ⟨last, ended⟩ := claimed [(refusing, .deleteSurrounding Word.largest 1)]
    (by decide) (by decide)
  have stopped : (Session.initial .buffered).followCounted Outgoing.width
      [(refusing, .deleteSurrounding Word.largest 1)] = .error .overflow := rfl
  rw [stopped] at ended
  cases ended

end TtyFrame.Composition
