import Assay.Text.Case
import Assay.Text.Cut
import Assay.Text.Word

/-!
# Normal form of an answer

Two answers count as equal when their normal forms are. The normal form is in lower case, has no
ASCII punctuation and no English article, and its words stand one blank apart.
-/
namespace Assay.Text

/-- An ASCII character that is neither letter, digit, blank nor control. -/
def isPunctuation (c : Char) : Bool :=
  let n := c.toNat
  (33 ≤ n && n ≤ 47) || (58 ≤ n && n ≤ 64) || (91 ≤ n && n ≤ 96) || (123 ≤ n && n ≤ 126)

/-- An English article. -/
def isArticle (word : List Char) : Bool :=
  word = ['a'] || word = ['a', 'n'] || word = ['t', 'h', 'e']

/-- A text in which every word that is an article has become a blank. -/
def dropArticles (text : List Char) : List Char :=
  (runs isWord text).flatMap fun run => if isArticle run then [' '] else run

/-- The normal form of an answer. -/
def normal (text : List Char) : List Char :=
  [' '].intercalate (words (dropArticles ((lower text).filter fun c => !isPunctuation c)))

end Assay.Text
