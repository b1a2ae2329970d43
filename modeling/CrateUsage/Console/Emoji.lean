import CrateUsage.Console.Pictures
import CrateUsage.Text.Ranges

namespace CrateUsage.Console.Emoji

def isCodeChar (c : Char) : Bool := c ≠ ':' && !Text.isSpace c

def code? (cs : List Char) : Option (List Char × List Char) :=
  match cs.dropWhile isCodeChar with
  | ':' :: rest => some (cs.takeWhile isCodeChar, rest)
  | _ => none

theorem length_lt_of_code? {cs code rest : List Char} (h : code? cs = some (code, rest)) :
    rest.length < cs.length := by
  unfold code? at h
  split at h
  · rename_i tail heq
    obtain ⟨rfl, rfl⟩ : cs.takeWhile isCodeChar = code ∧ tail = rest := by simpa using h
    have := (List.dropWhile_sublist (l := cs) isCodeChar).length_le
    simp only [heq, List.length_cons] at this
    omega
  · simp at h

/-- Puts a picture in the place of each code between colons. A code without a picture keeps its
colons, and neither of them begins another code. -/
def replace : List Char → List Char
  | [] => []
  | c :: cs =>
    if c = ':' then
      match _h : code? cs with
      | some (code, rest) =>
        (picture? code).getD (':' :: code ++ [':']) ++ replace rest
      | none => c :: replace cs
    else c :: replace cs
termination_by cs => cs.length
decreasing_by
  · have := length_lt_of_code? _h
    simp only [List.length_cons]
    omega
  · simp
  · simp

end CrateUsage.Console.Emoji
