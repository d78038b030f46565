import Straightedge.Proofs.Text.Basic
import Straightedge.Statement.Token

/-!
# Cutting a line into tokens

What each step of the lexer does to the rest of a line: a word followed by
anything that does not prolong it becomes one token, a symbol becomes another,
and blanks only move the columns. In the other direction every token that may
stand for an id is the text of a word.
-/

namespace Straightedge.Token

open Text (isWord isBlank IsName)

/-- What may follow a word without becoming part of it. -/
def EndsWord (rest : List Char) : Prop := ∀ c ∈ rest.head?, isWord c = false

@[simp] theorem endsWord_nil : EndsWord [] := by
  intro c member
  exact absurd member (by simp)

theorem endsWord_cons {c : Char} (rest : List Char) (h : isWord c = false) :
    EndsWord (c :: rest) := by
  intro d member
  obtain rfl : c = d := by simpa using member
  exact h

theorem takeWhile_of_endsWord {rest : List Char} (ends : EndsWord rest) :
    rest.takeWhile isWord = [] ∧ rest.dropWhile isWord = rest := by
  cases rest with
  | nil => exact ⟨rfl, rfl⟩
  | cons c rest =>
      have stop : isWord c = false := ends c rfl
      simp [stop]

/-- A word followed by anything that does not prolong it is one token. -/
theorem lexFrom_word {line col : Nat} {word rest : List Char} (nonempty : word ≠ [])
    (h : ∀ c ∈ word, isWord c = true) (ends : EndsWord rest) :
    lexFrom line col (word ++ rest) =
      ⟨wordKind word, String.ofList word, line, col⟩ :: lexFrom line (col + word.length) rest := by
  obtain ⟨c, tail, rfl⟩ := List.exists_cons_of_ne_nil nonempty
  have first := h c List.mem_cons_self
  have others : ∀ d ∈ tail, isWord d = true := fun d member => h d (List.mem_cons_of_mem c member)
  obtain ⟨taken, left⟩ := takeWhile_of_endsWord ends
  have takes : (tail ++ rest).takeWhile isWord = tail := by
    rw [List.takeWhile_append_of_pos others, taken, List.append_nil]
  have leaves : (tail ++ rest).dropWhile isWord = rest := by
    rw [List.dropWhile_append_of_pos others, left]
  rw [List.cons_append, lexFrom]
  simp [Text.ne_hash_of_isWord first, Text.isBlank_of_isWord first, first, takes, leaves]

/-- A character that opens no word, no blank and no comment stands for itself. -/
theorem lexFrom_symbol {line col : Nat} {c : Char} (rest : List Char) (hash : c ≠ '#')
    (blank : isBlank c = false) (word : isWord c = false) :
    lexFrom line col (c :: rest) =
      ⟨symbolKind c, String.singleton c, line, col⟩ :: lexFrom line (col + 1) rest := by
  rw [lexFrom]
  simp [hash, blank, word]

/-- The tokens of words with single spaces between them. -/
def wordTokens (line col : Nat) : List String → List Token
  | [] => []
  | word :: words =>
    ⟨wordKind word.toList, word, line, col⟩ :: wordTokens line (col + word.toList.length + 1) words

theorem lexFrom_intercalate (line col : Nat) {words : List String} (h : ∀ w ∈ words, IsName w) :
    lexFrom line col (" ".intercalate words).toList = wordTokens line col words := by
  induction words generalizing col with
  | nil => simp [wordTokens]
  | cons word words ih =>
      obtain ⟨isName, others⟩ := List.forall_mem_cons.mp h
      cases words with
      | nil =>
          rw [String.intercalate_singleton, ← List.append_nil word.toList,
            lexFrom_word isName.nonempty isName.word endsWord_nil, lexFrom_nil,
            String.ofList_toList]
          simp [wordTokens]
      | cons next words =>
          have separated : (" ".intercalate (word :: next :: words)).toList =
              word.toList ++ ' ' :: (" ".intercalate (next :: words)).toList := by
            simp [String.intercalate_cons_cons]
          rw [separated, lexFrom_word isName.nonempty isName.word (endsWord_cons _ (by decide)),
            lexFrom_blank Text.isBlank_space, ih _ others, String.ofList_toList]
          rfl

/-- A token that may stand for an id: a word, be it a number or not. -/
def IsWordToken (t : Token) : Prop := t.kind ∈ [TokenKind.id, .number]

theorem isWordToken_wordKind (word : List Char) : wordKind word ∈ [TokenKind.id, .number] := by
  unfold wordKind
  split <;> simp

theorem symbolKind_ne_word (c : Char) : symbolKind c ∉ [TokenKind.id, .number] := by
  unfold symbolKind
  split <;> simp

/-- Whatever may stand for an id is the text of a word. -/
theorem isName_of_mem_lexFrom {line col : Nat} {cs : List Char} {t : Token}
    (h : t ∈ lexFrom line col cs) (word : t.IsWordToken) : IsName t.text := by
  induction col, cs using lexFrom.induct with
  | case1 col => simp at h
  | case2 col c cs hash =>
      rw [lexFrom, if_pos hash] at h
      exact absurd h List.not_mem_nil
  | case3 col c cs hash blank ih =>
      rw [lexFrom, if_neg hash, if_pos blank] at h
      exact ih h
  | case4 col c cs hash blank first _ ih =>
      rw [lexFrom, if_neg hash, if_neg blank, if_pos first] at h
      rcases List.mem_cons.mp h with rfl | later
      · constructor
        · simp
        · rw [String.toList_ofList]
          exact List.forall_mem_cons.mpr ⟨first, List.all_eq_true.mp List.all_takeWhile⟩
      · exact ih later
  | case5 col c cs hash blank first ih =>
      rw [lexFrom, if_neg hash, if_neg blank, if_neg first] at h
      rcases List.mem_cons.mp h with rfl | later
      · exact absurd word (symbolKind_ne_word c)
      · exact ih later

end Straightedge.Token
