import BoardFirmware.Proofs.Action.Safe
import BoardFirmware.Proofs.Bytes.Slice
import BoardFirmware.Power.ClockTree

namespace BoardFirmware

namespace Bytes

-- The number whose four bytes start at the offset, the lowest one first.
def wordAt (b : Bytes) (offset : Nat) : Nat :=
  (b.getD offset 0).toNat + 0x100 * (b.getD (offset + 1) 0).toNat +
    0x10000 * (b.getD (offset + 2) 0).toNat + 0x1000000 * (b.getD (offset + 3) 0).toNat

theorem wordAt_lt (b : Bytes) (offset : Nat) : b.wordAt offset < UInt32.size := by
  have size : UInt32.size = 0x100000000 := rfl
  have := (b.getD offset 0).toNat_lt
  have := (b.getD (offset + 1) 0).toNat_lt
  have := (b.getD (offset + 2) 0).toNat_lt
  have := (b.getD (offset + 3) 0).toNat_lt
  rw [wordAt]
  omega

theorem word32_slice {b : Bytes} (le : offset + 4 ≤ b.length) :
    word32 (b.slice offset 4) = .ofNat (b.wordAt offset) := by
  have bytes : b.slice offset 4 = [b.getD offset 0, b.getD (offset + 1) 0, b.getD (offset + 2) 0,
      b.getD (offset + 3) 0] := by
    rw [slice_succ (by omega), slice_succ (by omega), slice_succ (by omega), slice_succ (by omega)]
    rfl
  have value : toNat (b.slice offset 4) = b.wordAt offset := by
    rw [bytes, wordAt]
    simp only [toNat]
    omega
  rw [word32, List.take_of_length_le (Nat.le_of_eq (length_slice_of_le le)), value]

theorem toNat_word32 {b : Bytes} (h : b.length = 4) : (word32 b).toNat = b.wordAt 0 := by
  have all : b.slice 0 4 = b := List.take_of_length_le (Nat.le_of_eq h)
  have word := word32_slice (Nat.le_of_eq h.symm)
  rw [all] at word
  rw [word, UInt32.toNat_ofNat_of_lt' (wordAt_lt b 0)]

end Bytes

namespace Power

open BoardFirmware.Action

theorem first?_eq_some {items : List α} (le : count ≤ items.length) :
    first? count items = some (items.take count) :=
  if_pos le

-- A text has room for all characters until it is full.
theorem foldlM_push? {text chars : Bytes} (f : UInt8 → UInt8)
    (fits : text.length + chars.length ≤ room) :
    chars.foldlM (fun text char => push? room text (f char)) text = some (text ++ chars.map f) := by
  induction chars generalizing text
  case nil => rw [List.foldlM_nil, List.map_nil, List.append_nil]; rfl
  case cons char rest ih =>
    rw [List.length_cons] at fits
    have pushed : push? room text (f char) = some (text ++ [f char]) := if_pos (by omega)
    rw [List.foldlM_cons, pushed]
    refine (ih (by rw [List.length_append, List.length_singleton]; omega)).trans ?_
    rw [List.map_cons, List.append_assoc]
    rfl

theorem and_low_bits (b : UInt8) : b &&& 0x7f = b % 0x80 := by
  rw [← UInt8.toNat_inj, UInt8.toNat_and, UInt8.toNat_mod]
  exact Nat.and_two_pow_sub_one_eq_mod b.toNat 7

theorem shortName?_eq (name : Bytes) : shortName? name = some ((name.take 15).map (· % 0x80)) := by
  have fits : ([] : Bytes).length + (name.take 15).length ≤ 15 := by
    rw [List.length_nil, Nat.zero_add]
    exact List.length_take_le ..
  have masked : (· &&& 0x7f) = fun b : UInt8 => b % 0x80 := funext and_low_bits
  exact (foldlM_push? (· &&& 0x7f) fits).trans (by rw [List.nil_append, masked])

namespace Answer

-- The name in a description, of which there is no end if it fills its field.
def name (info : Bytes) : Bytes :=
  (info.slice 73 40).takeWhile (· ≠ 0)

-- The parents in a description, as many as are counted and have room.
def parents (info : Bytes) : List UInt32 :=
  (List.range (min (info.getD 72 0).toNat 16)).map fun k => .ofNat (info.wordAt (8 + 4 * k))

-- What is understood of two answers about a clock.
def attributes (enabled info : Bytes) : ClockAttributes where
  enabled   := enabled.wordAt 0 ≠ 0
  name      := ((name info).take 15).map (· % 0x80)
  truncated := 16 ≤ (name info).length

def totalClocks (maxId : Bytes) : UInt32 :=
  .ofNat (min (maxId.wordAt 0 + 1) 65535)

end Answer

namespace ClockDescription

variable {info : Bytes} (whole : info.length = 113)

include whole

theorem length_name_decode : (decode info).name.length = maxName :=
  Bytes.length_slice_of_le (by rw [whole]; decide)

theorem nameLength_decode : (decode info).nameLength = (decode info).name.findIdx (· == 0) := by
  rw [nameLength, ← length_name_decode whole, List.findIdx_eq_getD_findIdx?]

theorem first?_nameLength_decode :
    first? (decode info).nameLength (decode info).name = some (Answer.name info) := by
  rw [nameLength_decode whole, first?_eq_some List.findIdx_le_length, Answer.name,
    List.takeWhile_eq_take_findIdx_not]
  simp only [decide_not, Bool.not_not]
  rfl

theorem length_answer_name : (Answer.name info).length = (decode info).nameLength := by
  have eq := first?_nameLength_decode whole
  rw [nameLength_decode whole, first?_eq_some List.findIdx_le_length] at eq
  rw [nameLength_decode whole, ← Option.some.inj eq, List.length_take_of_le List.findIdx_le_length]

theorem parents_decode :
    (decode info).parents =
      (List.range maxParents).map fun k => .ofNat (info.wordAt (8 + 4 * k)) := by
  have length : (info.slice 8 (4 * maxParents)).length = 4 * maxParents :=
    Bytes.length_slice_of_le (by rw [whole]; decide)
  have part : (decode info).parents = ((info.slice 8 (4 * maxParents)).chunks 4).map Bytes.word32 :=
    rfl
  rw [part, Bytes.chunks_eq_map_range (by decide) length, List.map_map]
  refine List.map_congr_left fun k mem => ?_
  have lt : k < 16 := List.mem_range.mp mem
  rw [Function.comp_apply, Bytes.slice_slice (by rw [maxParents]; omega)]
  exact Bytes.word32_slice (by omega)

theorem first?_knownParents_decode :
    first? (decode info).knownParents (decode info).parents = some (Answer.parents info) := by
  have room : (decode info).knownParents ≤ maxParents := Nat.min_le_right ..
  rw [parents_decode whole, first?_eq_some (by simpa using room), ← List.map_take, List.take_range,
    Nat.min_eq_left room]
  rfl

end ClockDescription

theorem Answer.attributes_eq {enabled info : Bytes} (long : enabled.length = 4)
    (whole : info.length = 113) :
    { enabled   := Bytes.word32 enabled ≠ 0
      name      := ((Answer.name info).take 15).map (· % 0x80)
      truncated := maxNameLength < (ClockDescription.decode info).nameLength + 1 } =
      Answer.attributes enabled info := by
  rw [Answer.attributes, ClockAttributes.mk.injEq, decide_eq_decide, decide_eq_decide]
  refine ⟨not_congr ?zero, rfl, ?long⟩
  case zero =>
    rw [← UInt32.toNat_inj, Bytes.toNat_word32 long]
    rfl
  case long =>
    rw [ClockDescription.length_answer_name whole, maxNameLength]
    omega

namespace ClockTree

theorem toNat_min (a b : UInt32) : (min a b).toNat = min a.toNat b.toNat :=
  apply_ite UInt32.toNat (a ≤ b) a b

-- After the largest clock there are as many as can have numbers.
theorem min_add32?_one (w : UInt32) :
    min ((Word.add32? w 1).getD 0xffffffff) maxClocks = .ofNat (min (w.toNat + 1) 65535) := by
  have small : min (w.toNat + 1) 65535 < UInt32.size :=
    Nat.lt_of_le_of_lt (Nat.min_le_right ..) (by decide)
  rw [← UInt32.toNat_inj, toNat_min, UInt32.toNat_ofNat_of_lt' small]
  by_cases fits : w.toNat + 1 < UInt32.size
  case pos =>
    have next : Word.add32? w 1 = some (w + 1) := if_pos fits
    rw [next, Option.getD_some, ← Word.add32?_eq_some_iff.mp next]
    rfl
  case neg =>
    have overflow : Word.add32? w 1 = none := if_neg fits
    have large : 65535 ≤ w.toNat + 1 := Nat.le_trans (by decide) (Nat.le_of_not_lt fits)
    rw [overflow, Nat.min_eq_right large]
    rfl

variable [IpcChannel χ]

-- The command for the clock is answered with `n` bytes, and the channel goes on from `x` to `y`.
def Answers (x : χ) (c : ClockCommand) (clock : UInt32) (answer : Vector UInt8 n) (y : χ) : Prop :=
  IpcChannel.communicate clockRequests (Layout.encode (c.word clock)) n x = (.ok answer.toList, y)

variable {c : ClockCommand} {clock : UInt32} {x y z : χ}

theorem result_command (c : ClockCommand) (clock : UInt32) (length : Nat) (x : χ) :
    (command c clock length).result ⟨x⟩ =
      match IpcChannel.communicate clockRequests (Layout.encode (c.word clock)) length x with
      | (.ok response, y) => (.done (response.fit length), ⟨y⟩)
      | (.error e, y)     => (.failed e.status, ⟨y⟩) := by
  rw [command, send, result_bind_of_done (result_modifyGet ..)]
  rcases IpcChannel.communicate clockRequests (Layout.encode (c.word clock)) length x
    with ⟨_ | _, _⟩
  case error => rfl
  case ok    => rfl

theorem Answers.result_command {answer : Vector UInt8 n} (h : Answers x c clock answer y) :
    (command c clock n).result ⟨x⟩ = (.done answer.toList, ⟨y⟩) := by
  rw [ClockTree.result_command, h]
  exact congrArg (fun b => (Outcome.done b, _)) (Bytes.fit_of_length_eq answer.length_toList)

theorem command_safe (c : ClockCommand) (clock : UInt32) (length : Nat) :
    (command c clock length : Action (ClockTree χ) Bytes).Safe (fun _ => True)
      fun answer => answer.length = length := by
  intro t _
  rw [result_command]
  rcases IpcChannel.communicate clockRequests (Layout.encode (c.word clock)) length t.channel
    with ⟨_ | response, _⟩
  case error => exact trivial
  case ok    => exact ⟨trivial, Bytes.length_fit length response⟩

omit [IpcChannel χ] in
theorem checkClock_safe (clock : UInt32) :
    (checkClock clock : Action (ClockTree χ) Unit).Safe (fun _ => True) fun _ => True :=
  Safe.ite (fun _ => Safe.throw) fun _ => Safe.pure trivial

-- How an operation ends depends on the answers only through what they are read as.

theorem result_attributes (clock : UInt32) (t : ClockTree χ) :
    (attributes clock).result t =
      (do
        checkClock clock
        let enabled ← command .isEnabled clock 4
        let info ← command .describe clock 113
        return Answer.attributes enabled info : Action (ClockTree χ) _).result t := by
  refine result_bind_congr rfl fun _ t => ?_
  refine (command_safe .isEnabled clock 4).result_bind_congr trivial fun enabled t long => ?_
  rw [describe, bind_assoc]
  refine (command_safe .describe clock 113).result_bind_congr trivial fun info t whole => ?_
  rw [pure_bind, ClockDescription.first?_nameLength_decode whole,
    result_bind_of_done (result_checked_some ..), shortName?_eq,
    result_bind_of_done (result_checked_some ..), ← Answer.attributes_eq long whole]
  dsimp only
  split
  case isTrue  => rfl
  case isFalse => rfl

theorem result_parents (clock : UInt32) (t : ClockTree χ) :
    (parents clock).result t =
      (do
        checkClock clock
        let info ← command .describe clock 113
        return Answer.parents info : Action (ClockTree χ) _).result t := by
  refine result_bind_congr rfl fun _ t => ?_
  rw [describe, bind_assoc]
  refine (command_safe .describe clock 113).result_bind_congr trivial fun info t whole => ?_
  rw [pure_bind, ClockDescription.first?_knownParents_decode whole]
  rfl

theorem result_totalClocks (t : ClockTree χ) :
    totalClocks.result t =
      (do
        let maxId ← command .getMaxId 0 4
        return Answer.totalClocks maxId : Action (ClockTree χ) _).result t := by
  refine (command_safe .getMaxId 0 4).result_bind_congr trivial fun maxId t long => ?_
  rw [Answer.totalClocks, ← Bytes.toNat_word32 long, ← min_add32?_one]

theorem answer_safe (c : ClockCommand) (clock : UInt32) (length : Nat) (read : Bytes → α) :
    (do return read (← command c clock length) : Action (ClockTree χ) α).Safe (fun _ => True)
      fun _ => True :=
  (command_safe c clock length).bind fun _ _ => Safe.pure trivial

theorem attributes_ne_trapped (clock : UInt32) (t : ClockTree χ) :
    ((attributes clock).result t).1 ≠ .trapped := by
  rw [result_attributes]
  exact Safe.not_trapped
    ((checkClock_safe clock).bind fun _ _ => (command_safe .isEnabled clock 4).bind fun _ _ =>
      answer_safe .describe clock 113 _) trivial

theorem parents_ne_trapped (clock : UInt32) (t : ClockTree χ) :
    ((parents clock).result t).1 ≠ .trapped := by
  rw [result_parents]
  exact Safe.not_trapped
    ((checkClock_safe clock).bind fun _ _ => answer_safe .describe clock 113 _) trivial

theorem totalClocks_ne_trapped (t : ClockTree χ) : (totalClocks.result t).1 ≠ .trapped := by
  rw [result_totalClocks]
  exact (answer_safe .getMaxId 0 4 _).not_trapped trivial

omit [IpcChannel χ] in
theorem result_checkClock (valid : clock < maxClocks) (t : ClockTree χ) :
    (checkClock clock).result t = (.done (), t) := by
  rw [checkClock_of_lt valid, result_pure]

namespace Answers

theorem result_attributes {enabled : Vector UInt8 4} {info : Vector UInt8 113}
    (valid : clock < maxClocks) (h : Answers x .isEnabled clock enabled y)
    (h' : Answers y .describe clock info z) :
    (attributes clock).result ⟨x⟩ =
      (.done (Answer.attributes enabled.toList info.toList), ⟨z⟩) := by
  rw [ClockTree.result_attributes, result_bind_of_done (result_checkClock valid _),
    result_bind_of_done h.result_command, result_bind_of_done h'.result_command, result_pure]

theorem result_parents {info : Vector UInt8 113} (valid : clock < maxClocks)
    (h : Answers x .describe clock info y) :
    (parents clock).result ⟨x⟩ = (.done (Answer.parents info.toList), ⟨y⟩) := by
  rw [ClockTree.result_parents, result_bind_of_done (result_checkClock valid _),
    result_bind_of_done h.result_command, result_pure]

theorem result_checkParent {info : Vector UInt8 113} (valid : clock < maxClocks)
    (h : Answers x .describe clock info y) (parent : UInt32) :
    (checkParent clock parent).result ⟨x⟩ =
      (if parent ∈ Answer.parents info.toList then .done () else .failed .notFound, ⟨y⟩) := by
  rw [checkParent, result_bind_of_done (h.result_parents valid)]
  split
  case isTrue  => rfl
  case isFalse => rfl

theorem result_totalClocks {maxId : Vector UInt8 4} (h : Answers x .getMaxId 0 maxId y) :
    totalClocks.result ⟨x⟩ = (.done (Answer.totalClocks maxId.toList), ⟨y⟩) := by
  rw [ClockTree.result_totalClocks, result_bind_of_done h.result_command, result_pure]

end Answers

-- No answer of the processor traps the firmware. If there is one, all that fits is taken from it.
theorem information_of_answers (clock : UInt32) (x : χ) :
    (((attributes clock).result ⟨x⟩).1 ≠ .trapped ∧ ((parents clock).result ⟨x⟩).1 ≠ .trapped ∧
      (totalClocks.result ⟨x⟩).1 ≠ .trapped) ∧
    (∀ (enabled : Vector UInt8 4) (info : Vector UInt8 113) (y z : χ), clock < maxClocks →
      Answers x .isEnabled clock enabled y → Answers y .describe clock info z →
      (attributes clock).result ⟨x⟩ =
        (.done (Answer.attributes enabled.toList info.toList), ⟨z⟩)) ∧
    (∀ (info : Vector UInt8 113) (y : χ), clock < maxClocks → Answers x .describe clock info y →
      (parents clock).result ⟨x⟩ = (.done (Answer.parents info.toList), ⟨y⟩) ∧
      ∀ parent, (checkParent clock parent).result ⟨x⟩ =
        (if parent ∈ Answer.parents info.toList then .done () else .failed .notFound, ⟨y⟩)) ∧
    (∀ (maxId : Vector UInt8 4) (y : χ), Answers x .getMaxId 0 maxId y →
      totalClocks.result ⟨x⟩ = (.done (Answer.totalClocks maxId.toList), ⟨y⟩)) := by
  refine ⟨⟨attributes_ne_trapped clock _, parents_ne_trapped clock _, totalClocks_ne_trapped _⟩,
    ?_, ?_, ?_⟩
  · exact fun _ _ _ _ valid h h' => h.result_attributes valid h'
  · exact fun _ _ valid h => ⟨h.result_parents valid, h.result_checkParent valid⟩
  · exact fun _ _ h => h.result_totalClocks

-- A processor that counts down from the largest byte, by one for each word of an answer.
structure CountingDown where

def CountingDown.answer (n : Nat) : Vector UInt8 n :=
  ⟨((List.range n).map fun k => .ofNat (0xff - k / 4)).toArray, by simp⟩

instance : IpcChannel CountingDown where
  communicate _ _ length s := (.ok (CountingDown.answer length).toList, s)

-- The name has no end and no ASCII characters, there are 237 parents, and no number is left after
-- the largest clock.
theorem information_of_answers_countingDown :
    (attributes 0xfffe).result (⟨⟨⟩⟩ : ClockTree CountingDown) =
      (.done ⟨true, [0x6d, 0x6d, 0x6d, 0x6c, 0x6c, 0x6c, 0x6c, 0x6b, 0x6b, 0x6b, 0x6b, 0x6a, 0x6a,
        0x6a, 0x6a], true⟩, ⟨⟨⟩⟩) ∧
    (parents 0xfffe).result (⟨⟨⟩⟩ : ClockTree CountingDown) =
      (.done [0xfdfdfdfd, 0xfcfcfcfc, 0xfbfbfbfb, 0xfafafafa, 0xf9f9f9f9, 0xf8f8f8f8, 0xf7f7f7f7,
        0xf6f6f6f6, 0xf5f5f5f5, 0xf4f4f4f4, 0xf3f3f3f3, 0xf2f2f2f2, 0xf1f1f1f1, 0xf0f0f0f0,
        0xefefefef, 0xeeeeeeee], ⟨⟨⟩⟩) ∧
    (checkParent 0xfffe 0xeeeeeeee).result (⟨⟨⟩⟩ : ClockTree CountingDown) = (.done (), ⟨⟨⟩⟩) ∧
    (checkParent 0xfffe 0xedededed).result (⟨⟨⟩⟩ : ClockTree CountingDown) =
      (.failed .notFound, ⟨⟨⟩⟩) ∧
    totalClocks.result (⟨⟨⟩⟩ : ClockTree CountingDown) = (.done 0xffff, ⟨⟨⟩⟩) := by
  have valid : (0xfffe : UInt32) < maxClocks := by decide
  have ⟨_, attributes, parents, totalClocks⟩ :=
    information_of_answers 0xfffe (⟨⟩ : CountingDown)
  have ⟨parents, checkParent⟩ := parents (CountingDown.answer 113) ⟨⟩ valid rfl
  refine ⟨?_, ?_, ?_, ?_, ?_⟩
  · exact attributes (CountingDown.answer 4) (CountingDown.answer 113) ⟨⟩ ⟨⟩ valid rfl rfl
  · exact parents
  · exact checkParent 0xeeeeeeee
  · exact checkParent 0xedededed
  · exact totalClocks (CountingDown.answer 4) ⟨⟩ rfl

end ClockTree

end Power

end BoardFirmware
