import FormPublisher.Proofs.Provider.Exchange
import FormPublisher.Proofs.Value.Mapping
import Mathlib

/-!
# Questions under their numbers

Questions are added to a form in one call, which sends them as a mapping: each question stands under
its number in decimal, counted from one (`Client.addQuestions_numbers`).

`numbered` lists the entries of this mapping.  A mapping that is written entry by entry keeps only
the last value under a key, so the list has to be compared with what writing gives
(`foldl_put_numbered`).  They are the same for any number of questions, because no two numbers are
written alike: the next number is always a new key (`put_numbered`).
-/

namespace FormPublisher

/-- The numbers from one up to a count, in decimal. -/
def questionNumbers (count : Nat) : List String := (List.range count).map fun i => toString (i + 1)

/-- A mapping that has questions under their numbers. -/
structure AreNumbered (questions : List Value) (es : Entries) : Prop where
  /-- The keys are the numbers of the questions in ascending order, and no others. -/
  keys : es.keys = (questionNumbers questions.length).map .text
  /-- They differ as texts. -/
  distinct : (questionNumbers questions.length).Nodup
  /-- The values are the questions, in their order and unchanged. -/
  values : es.map Prod.snd = questions
  /-- Under the number of a question this question is found. -/
  found : ∀ (i : Nat) (hi : i < questions.length),
    es.find? (.text (toString (i + 1))) = some questions[i]
  /-- Under anything else nothing is found. -/
  missing : ∀ key, (∀ i < questions.length, key ≠ .text (toString (i + 1))) → es.find? key = none
  /-- The mapping is what one gets by writing the questions one after another, counting from one. -/
  written : (questions.zipIdx 1).foldl
    (fun written q => Entries.put (.text (toString q.2)) q.1 written) [] = es

/-! ### Numbers -/

theorem mem_questionNumbers_iff {count : Nat} {s : String} :
    s ∈ questionNumbers count ↔ ∃ i < count, s = toString (i + 1) := by
  simp only [questionNumbers, List.mem_map, List.mem_range, eq_comm]

/-- A number is among the first so many only if it is not greater. -/
theorem toString_mem_questionNumbers_iff {count i : Nat} :
    toString (i + 1) ∈ questionNumbers count ↔ i < count := by
  rw [mem_questionNumbers_iff]
  constructor
  · rintro ⟨j, hj, h⟩
    have hij : i + 1 = j + 1 := Nat.repr_injective h
    omega
  · intro hi
    exact ⟨i, hi, rfl⟩

theorem nodup_questionNumbers (count : Nat) : (questionNumbers count).Nodup := by
  have hinjective : Function.Injective fun i : Nat => toString (i + 1) := by
    intro i j h
    have hij : i + 1 = j + 1 := Nat.repr_injective h
    omega
  exact List.nodup_range.map hinjective

/-! ### Entries -/

theorem numbered_concat (questions : List Value) (q : Value) :
    numbered (questions ++ [q]) =
      numbered questions ++ [(.text (toString (questions.length + 1)), q)] :=
  List.mapIdx_concat

theorem keys_numbered (questions : List Value) :
    (numbered questions).keys = (questionNumbers questions.length).map .text := by
  induction questions using List.reverseRecOn with
  | nil => rfl
  | append_singleton questions q ih =>
    rw [numbered_concat, Entries.keys_append, ih, List.length_append, List.length_singleton,
      questionNumbers, questionNumbers, List.range_succ, List.map_append, List.map_append]
    rfl

theorem values_numbered (questions : List Value) :
    (numbered questions).map Prod.snd = questions := by
  induction questions using List.reverseRecOn with
  | nil => rfl
  | append_singleton questions q ih =>
    rw [numbered_concat, List.map_append, ih]
    rfl

theorem hasTextKeys_numbered (questions : List Value) : (numbered questions).HasTextKeys := by
  intro k hk
  rw [keys_numbered] at hk
  obtain ⟨s, -, rfl⟩ := List.mem_map.mp hk
  exact ⟨s, rfl⟩

/-- The number of a question is a key only if there are so many questions. -/
theorem has_numbered_iff {questions : List Value} {i : Nat} :
    (numbered questions).has (.text (toString (i + 1))) ↔ i < questions.length := by
  rw [Entries.has_text_iff, keys_numbered,
    List.mem_map_of_injective fun _ _ => Scalar.text.inj, toString_mem_questionNumbers_iff]

/-! ### Writing -/

/-- One more question goes to the end: its number is not there yet. -/
theorem put_numbered (questions : List Value) (q : Value) :
    Entries.put (.text (toString (questions.length + 1))) q (numbered questions) =
      numbered (questions ++ [q]) := by
  have hnew : (numbered questions).has (.text (toString (questions.length + 1))) = false := by
    rw [Bool.eq_false_iff, ne_eq, has_numbered_iff]
    exact Nat.lt_irrefl _
  rw [Entries.put_of_has_eq_false q hnew, numbered_concat]

/-- Writing questions one after another under their numbers loses none of them. -/
theorem foldl_put_numbered (questions : List Value) :
    (questions.zipIdx 1).foldl (fun written q => Entries.put (.text (toString q.2)) q.1 written) [] =
      numbered questions := by
  induction questions using List.reverseRecOn with
  | nil => rfl
  | append_singleton questions q ih =>
    rw [List.zipIdx_append, List.foldl_append, ih, Nat.add_comm 1]
    exact put_numbered questions q

/-! ### Looking up -/

/-- The number of a question leads to it, also when more questions follow. -/
theorem find?_numbered {questions : List Value} {i : Nat} (hi : i < questions.length) :
    (numbered questions).find? (.text (toString (i + 1))) = some questions[i] := by
  induction questions using List.reverseRecOn with
  | nil => exact absurd hi (Nat.not_lt_zero i)
  | append_singleton questions q ih =>
    rw [← put_numbered, Entries.find?_put_text]
    by_cases hlast : i = questions.length
    · subst hlast
      rw [if_pos rfl, List.getElem_concat_length rfl]
    · have hlt : i < questions.length := by
        rw [List.length_append, List.length_singleton] at hi
        omega
      have hne : Scalar.text (toString (i + 1)) ≠ .text (toString (questions.length + 1)) := by
        intro h
        have hsame : i + 1 = questions.length + 1 := Nat.repr_injective (Scalar.text.inj h)
        omega
      rw [if_neg hne, ih hlt, List.getElem_append_left hlt]

theorem find?_numbered_eq_none {questions : List Value} {key : Scalar}
    (h : ∀ i < questions.length, key ≠ .text (toString (i + 1))) :
    (numbered questions).find? key = none := by
  by_cases hkey : ∃ s, key = .text s
  · obtain ⟨s, rfl⟩ := hkey
    apply Entries.find?_text_of_has_eq_false
    rw [Bool.eq_false_iff, ne_eq, Entries.has_text_iff, keys_numbered,
      List.mem_map_of_injective fun _ _ => Scalar.text.inj, mem_questionNumbers_iff]
    rintro ⟨i, hi, rfl⟩
    exact h i hi rfl
  · exact (hasTextKeys_numbered questions).find?_eq_none fun s hs => hkey ⟨s, hs⟩

theorem areNumbered_numbered (questions : List Value) :
    AreNumbered questions (numbered questions) where
  keys := keys_numbered questions
  distinct := nodup_questionNumbers questions.length
  values := values_numbered questions
  found _ hi := find?_numbered hi
  missing _ h := find?_numbered_eq_none h
  written := foldl_put_numbered questions

/-! ### The call -/

/-- Questions are added in one call.  It sends an object with a single member, the mapping of the
questions under their numbers, in which none of them is left out, written over or moved. -/
theorem Client.addQuestions_numbers (c : Client) (form : String) (questions : List Value)
    (s : Session) :
    ∃ (call : Call) (es : Entries),
      ((c.addQuestions (.text form) (.list questions)).exec s).2 = s.after [call] ∧
      call.method = .put ∧
      call.url = trimSlashes c.apiUrl ++ "/form/" ++ form ++ "/questions" ∧
      call.body = .json (.object [("questions", .map es)]) ∧
      AreNumbered questions es := by
  have hexec : (c.addQuestions (.text form) (.list questions)).exec s =
      (outcome (.addQuestions form questions) (s.reply 0),
        s.after [c.call (.addQuestions form questions)]) :=
    c.exec_send (.addQuestions form questions) s
  refine ⟨c.call (.addQuestions form questions), numbered questions, ?_, rfl, ?_, rfl,
    areNumbered_numbered questions⟩
  · rw [hexec]
  · show trimSlashes c.apiUrl ++ ("/form/" ++ form ++ "/questions") = _
    simp only [String.append_assoc]

end FormPublisher
