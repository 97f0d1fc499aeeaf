namespace StackForth.Text

-- A character that separates tokens: a control or separator that stands for white space.
def isBlank (c : Char) : Bool :=
  let n := c.toNat
  (0x09 ≤ n && n ≤ 0x0D) || (0x1C ≤ n && n ≤ 0x20) || n == 0x85 || n == 0xA0 || n == 0x1680 ||
  (0x2000 ≤ n && n ≤ 0x200A) || n == 0x2028 || n == 0x2029 || n == 0x202F || n == 0x205F ||
  n == 0x3000

def closeRun : List Char → List String
  | []       => []
  | c :: run => [String.ofList (c :: run).reverse]

-- The tokens of the characters that are left, where `run` holds the characters of the token that
-- is still open, last character first.
def tokensAfter (run : List Char) : List Char → List String
  | []      => closeRun run
  | c :: cs =>
    if isBlank c
    then closeRun run ++ tokensAfter [] cs
    else tokensAfter (c :: run) cs

def tokens (text : String) : List String :=
  tokensAfter [] text.toList

theorem tokensAfter_append_cons (run cs ds : List Char) {c : Char} (h : isBlank c = true) :
    tokensAfter run (cs ++ c :: ds) = tokensAfter run cs ++ tokensAfter [] ds := by
  induction cs generalizing run with
  | nil => simp [tokensAfter, h]
  | cons d cs ih => by_cases hd : isBlank d <;> simp [tokensAfter, hd, ih]

theorem tokens_append (a b : String) {c : Char} (h : isBlank c = true) :
    tokens (a ++ String.ofList [c] ++ b) = tokens a ++ tokens b := by
  simpa [tokens] using tokensAfter_append_cons [] a.toList b.toList h

theorem mem_tokensAfter {run cs : List Char} {token : String} (hr : ∀ c ∈ run, isBlank c = false)
    (h : token ∈ tokensAfter run cs) : token ≠ "" ∧ ∀ c ∈ token.toList, isBlank c = false := by
  have hclose {run : List Char} (hr : ∀ c ∈ run, isBlank c = false) (h : token ∈ closeRun run) :
      token ≠ "" ∧ ∀ c ∈ token.toList, isBlank c = false := by
    cases run with
    | nil => simp [closeRun] at h
    | cons c run =>
      simp only [closeRun, List.mem_singleton] at h
      subst h
      refine ⟨by simp [← String.toList_inj], fun d hd => hr d ?_⟩
      simpa [or_comm] using hd
  induction cs generalizing run with
  | nil => exact hclose hr h
  | cons c cs ih =>
    simp only [tokensAfter] at h
    split at h
    case isTrue =>
      rcases List.mem_append.mp h with h | h
      · exact hclose hr h
      · exact ih (by simp) h
    case isFalse hc => exact ih (by simp_all) h

theorem mem_tokens {text token : String} (h : token ∈ tokens text) :
    token ≠ "" ∧ ∀ c ∈ token.toList, isBlank c = false :=
  mem_tokensAfter (by simp) h

def trim (text : String) : String :=
  String.ofList ((text.toList.dropWhile isBlank).reverse.dropWhile isBlank).reverse

end StackForth.Text
