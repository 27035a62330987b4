import MiniPascal.Console

/-! # Transcripts of the console

What the console writes on a text is fixed by the lines of the text and by what one session shows for those that are not
blank: the prompt stands before each line and at the end, and the answers come after their lines. So a blank line is one
prompt more and nothing else, wherever it stands. The console reads bytes, but no character other than the end of a line
has the byte of one. -/

namespace MiniPascal.Console
open Text

/-! ### Lines of characters and of bytes -/

/-- The lines of a text. The last one need not be ended. -/
def linesOf (text : List Char) : List (List Char) :=
  let pieces := text.splitOn '\n'
  if pieces.getLast? = some [] then pieces.dropLast else pieces

/-- The bytes of characters. -/
def encode (cs : List Char) : List UInt8 := cs.flatMap String.utf8EncodeChar

variable {line rest : List Char} {bytes : List UInt8}

theorem linesOf_cons (whole : '\n' ∉ line) : linesOf (line ++ '\n' :: rest) = line :: linesOf rest := by
  have ne := List.splitOn_ne_nil '\n' rest
  have split : (line ++ '\n' :: rest).splitOn '\n' = line :: rest.splitOn '\n' :=
    List.splitOnP_append_cons_of_forall_mem (fun c mem => beq_false_of_ne (ne_of_mem_of_not_mem mem whole)) '\n'
      (beq_self_eq_true _) rest
  unfold linesOf
  dsimp only
  rw [split, List.getLast?_cons_of_ne_nil ne, List.dropLast_cons_of_ne_nil ne]
  split <;> rfl

theorem linesOf_singleton (whole : '\n' ∉ line) : linesOf line = if line = [] then [] else [line] := by
  unfold linesOf
  rw [List.splitOn_eq_singleton whole]
  simp

theorem splitLines_append (plain : 10 ∉ bytes) (begun after : List UInt8) :
    splitLines begun (bytes ++ after) = splitLines (bytes.reverse ++ begun) after := by
  induction bytes generalizing begun with
  | nil => rfl
  | cons b bs ih =>
    have other : b ≠ 10 := (List.ne_of_not_mem_cons plain).symm
    rw [List.cons_append, splitLines, if_neg other, ih (List.not_mem_of_not_mem_cons plain), List.reverse_cons,
      List.append_assoc]
    rfl

theorem splitLines_line (plain : 10 ∉ bytes) (after : List UInt8) :
    splitLines [] (bytes ++ 10 :: after) = bytes :: splitLines [] after := by
  rw [splitLines_append plain, splitLines, if_pos rfl, List.append_nil, List.reverse_reverse]

theorem splitLines_last (plain : 10 ∉ bytes) : splitLines [] bytes = if bytes = [] then [] else [bytes] := by
  have ended := splitLines_append plain [] []
  rw [List.append_nil, List.append_nil, splitLines, List.reverse_reverse] at ended
  simpa using ended

/-- The byte of a newline is in no other character. -/
theorem newline_of_mem_utf8 {c : Char} (h : 10 ∈ String.utf8EncodeChar c) : c = '\n' := by
  unfold String.utf8EncodeChar at h
  dsimp only at h
  split at h
  · next small =>
    have code := congrArg UInt8.toNat (List.mem_singleton.mp h)
    rw [UInt8.toNat_ofNat', Nat.mod_eq_of_lt (by omega)] at code
    exact Char.toNat_inj.mp code.symm
  -- All bytes of a longer sequence have their highest bit set.
  · split at h
    · simp [← UInt8.toNat_inj] at h
      omega
    · split at h <;> (simp [← UInt8.toNat_inj] at h; omega)

theorem newline_not_mem_encode (whole : '\n' ∉ line) : 10 ∉ encode line := by
  intro mem
  obtain ⟨c, inside, byte⟩ := List.mem_flatMap.mp mem
  exact whole (newline_of_mem_utf8 byte ▸ inside)

theorem encode_eq_nil : encode line = [] ↔ line = [] := by
  cases line <;> simp [encode]

/-- The lines of the bytes are the bytes of the lines. -/
theorem splitLines_encode (text : List Char) : splitLines [] (encode text) = (linesOf text).map encode := by
  -- The first newline ends the first line of both, and what is left is shorter.
  by_cases ended : '\n' ∈ text
  · obtain ⟨line, rest, rfl, whole⟩ := List.eq_append_cons_of_mem ended
    have shorter : rest.length < (line ++ '\n' :: rest).length := by
      rw [List.length_append, List.length_cons]
      omega
    have bytes : encode (line ++ '\n' :: rest) = encode line ++ 10 :: encode rest := List.flatMap_append
    rw [bytes, splitLines_line (newline_not_mem_encode whole), linesOf_cons whole, List.map_cons,
      splitLines_encode rest]
  · rw [splitLines_last (newline_not_mem_encode ended), linesOf_singleton ended]
    simp only [encode_eq_nil]
    split <;> rfl
termination_by text.length

/-- A line of text is answered. -/
theorem respond?_encode (s : Session) (line : List Char) : respond? s (encode line) = some (respond s line) := by
  have valid : (⟨(encode line).toArray⟩ : ByteArray) = (String.ofList line).toByteArray := by
    rw [String.toByteArray_ofList, List.utf8Encode]
    exact ByteArray.ext List.data_toByteArray.symm
  have read : String.fromUTF8? ⟨(encode line).toArray⟩ = some (String.ofList line) := by
    rw [valid, String.fromUTF8?, dif_pos (String.isValidUTF8 _)]
    rfl
  rw [respond?, read, Option.map_some, String.toList_ofList]

/-! ### Answers -/

/-- A line without the blanks around it. -/
def entryOf (line : List Char) : String := String.ofList (trim line)

/-- What the lines come to that are not blank. -/
def entriesOf (lines : List (List Char)) : List String :=
  (lines.map entryOf).filter (!·.isEmpty)

/-- What the console writes after the texts of a session. -/
def answersOf (s : Session) (texts : List String) : List String :=
  (s.runAll texts).map fun (shown, _) => answer shown

/-- Each line is a prompt with the next of the answers after it, or a prompt alone if it is blank. A prompt and the end
of its line come last. -/
def interleave : List (List Char) → List String → List String
  | [], _ => [prompt, "\n"]
  | line :: lines, answers =>
    if trim line = [] then prompt :: interleave lines answers
    else prompt :: (answers.take 1 ++ interleave lines (answers.drop 1))

theorem entriesOf_blank (blank : trim line = []) (lines : List (List Char)) :
    entriesOf (line :: lines) = entriesOf lines := by
  simp [entriesOf, entryOf, blank]

theorem entriesOf_entry (entry : trim line ≠ []) (lines : List (List Char)) :
    entriesOf (line :: lines) = entryOf line :: entriesOf lines := by
  simp [entriesOf, entryOf, entry]

theorem answersOf_entry (entry : trim line ≠ []) (s : Session) (lines : List (List Char)) :
    answersOf s (entriesOf (line :: lines)) =
      answer (s.run (entryOf line)).1 :: answersOf (s.run (entryOf line)).2 (entriesOf lines) := by
  rw [entriesOf_entry entry]
  rfl

theorem respond_blank (blank : trim line = []) (s : Session) : respond s line = ("", s) := by
  simp [respond, blank]

theorem respond_entry (entry : trim line ≠ []) (s : Session) :
    respond s line = (answer (s.run (entryOf line)).1, (s.run (entryOf line)).2) := by
  simp [respond, entryOf, entry]

/-- An answer is nothing, or it ends its line. -/
theorem answer_ne_prompt (run : Except Error String) : answer run ≠ prompt := by
  have ended (text : String) : text ++ "\n" ≠ prompt := by
    intro same
    have last := congrArg (·.toList.getLast?) same
    simp [prompt] at last
  cases run with
  | ok shown =>
    rw [answer]
    split
    · decide
    · exact ended shown
  | error e => exact ended _

/-! ### What is written on lines -/

/-- What the console writes on these lines, prompt by prompt and answer by answer, if a session answers those that are
not blank. -/
def script (s : Session) (lines : List (List Char)) : List String :=
  interleave lines (answersOf s (entriesOf lines))

theorem script_blank (blank : trim line = []) (s : Session) (lines : List (List Char)) :
    script s (line :: lines) = prompt :: script s lines := by
  rw [script, entriesOf_blank blank, interleave, if_pos blank]
  rfl

theorem script_entry (entry : trim line ≠ []) (s : Session) (lines : List (List Char)) :
    script s (line :: lines) = prompt :: answer (s.run (entryOf line)).1 :: script (s.run (entryOf line)).2 lines := by
  rw [script, entriesOf_entry entry, interleave, if_neg entry]
  rfl

/-- The console answers the lines as one session does. -/
theorem converse_encode (s : Session) (lines : List (List Char)) :
    converse s (lines.map encode) = .success (String.join (script s lines)) := by
  induction lines generalizing s with
  | nil => rfl
  | cons line lines ih =>
    rw [List.map_cons, converse, respond?_encode]
    by_cases blank : trim line = []
    · rw [respond_blank blank, script_blank blank, String.join_cons]
      dsimp only
      rw [ih, String.append_empty]
      rfl
    · rw [respond_entry blank, script_entry blank, String.join_cons, String.join_cons, ← String.append_assoc]
      dsimp only
      rw [ih]
      rfl

/-- Without the prompts, there are all answers and the end of the last line. -/
theorem filter_script (s : Session) (lines : List (List Char)) :
    (script s lines).filter (· ≠ prompt) = answersOf s (entriesOf lines) ++ ["\n"] := by
  induction lines generalizing s with
  | nil => rfl
  | cons line lines ih =>
    by_cases blank : trim line = []
    · rw [script_blank blank, entriesOf_blank blank, List.filter_cons_of_neg (by simp), ih]
    · rw [script_entry blank, answersOf_entry blank, List.filter_cons_of_neg (by simp),
        List.filter_cons_of_pos (by simpa using answer_ne_prompt _), ih, List.cons_append]

/-- There is a prompt before each line and one at the end. -/
theorem count_script (s : Session) (lines : List (List Char)) : (script s lines).count prompt = lines.length + 1 := by
  induction lines generalizing s with
  | nil => rfl
  | cons line lines ih =>
    by_cases blank : trim line = []
    · rw [script_blank blank, List.count_cons_self, ih, List.length_cons]
    · rw [script_entry blank, List.count_cons_self, List.count_cons_of_ne (answer_ne_prompt _), ih, List.length_cons]

/-- After some lines, what is written depends on the other lines and on the session there. -/
theorem script_append (s : Session) (front : List (List Char)) :
    ∃ before t, ∀ back, script s (front ++ back) = before ++ script t back := by
  induction front generalizing s with
  | nil => exact ⟨[], s, fun _ => rfl⟩
  | cons line front ih =>
    by_cases blank : trim line = []
    · obtain ⟨before, t, split⟩ := ih s
      refine ⟨prompt :: before, t, fun back => ?_⟩
      rw [List.cons_append, script_blank blank, split, List.cons_append]
    · obtain ⟨before, t, split⟩ := ih (s.run (entryOf line)).2
      refine ⟨prompt :: answer (s.run (entryOf line)).1 :: before, t, fun back => ?_⟩
      rw [List.cons_append, script_entry blank, split, List.cons_append, List.cons_append]

/-! ### Texts -/

/-- What the console writes on a text after its banner. -/
def written (text : String) : List String :=
  script (.start .lines) (linesOf text.toList)

/-- On a text the console does what one session does with those of its lines that are not blank. It ends well, after it
has written the banner, the prompts before the lines and at the end, and all answers after their lines. A blank line is
one prompt more. -/
theorem transcript_of_text (text : String) :
    transcript text.toUTF8.data.toList = .success (banner ++ String.join (written text)) ∧
      (written text).filter (· ≠ prompt) = answersOf (.start .lines) (entriesOf (linesOf text.toList)) ++ ["\n"] ∧
      (written text).count prompt = (linesOf text.toList).length + 1 ∧
      ∀ other front blank back, linesOf text.toList = front ++ blank :: back → trim blank = [] →
        linesOf other.toList = front ++ back →
          ∃ before after, written text = before ++ prompt :: after ∧ written other = before ++ after := by
  refine ⟨?_, filter_script _ _, count_script _ _, fun other front blank back lines empty lines' => ?_⟩
  · have bytes : text.toUTF8.data.toList = encode text.toList := by
      rw [String.toUTF8_eq_toByteArray, ← String.utf8Encode_toList, List.utf8Encode, List.toList_data_toByteArray]
      rfl
    rw [transcript, bytes, splitLines_encode, converse_encode]
    rfl
  · obtain ⟨before, t, split⟩ := script_append (.start .lines) front
    refine ⟨before, script t back, ?_, ?_⟩
    · rw [written, lines, split, script_blank empty]
    · rw [written, lines', split]

/-- A line of blanks between two others, and a last line that is not ended. -/
theorem transcript_of_blank_line :
    linesOf "x := 1\n \nx".toList = ["x := 1".toList] ++ " ".toList :: ["x".toList] ∧ trim " ".toList = [] ∧
      linesOf "x := 1\nx".toList = ["x := 1".toList] ++ ["x".toList] ∧
        ∃ before after, written "x := 1\n \nx" = before ++ prompt :: after ∧ written "x := 1\nx" = before ++ after := by
  have lines : linesOf "x := 1\n \nx".toList = ["x := 1".toList] ++ " ".toList :: ["x".toList] := by decide +kernel
  have empty : trim " ".toList = [] := by decide +kernel
  have lines' : linesOf "x := 1\nx".toList = ["x := 1".toList] ++ ["x".toList] := by decide +kernel
  exact ⟨lines, empty, lines', (transcript_of_text _).2.2.2 _ _ _ _ lines empty lines'⟩

example : written "1 / 2\n \n1 DIV 0" =
    [prompt, "0.5\n", prompt, prompt, "error: division by zero\n", prompt, "\n"] := by
  decide +kernel

end MiniPascal.Console
