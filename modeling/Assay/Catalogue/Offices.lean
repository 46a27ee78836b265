import Assay.Task

/-!
# Questions about office holders

Each question asks for the last names of those who hold an office. The answer is compared with
the names as a list; for one question their order does not count.
-/
namespace Assay.Catalogue

open Json

/-- How a question is put to the model. -/
def officePrompt : String :=
  "Provide a concise and accurate answer to the following question about an office holder " ++
    "in the United States government. The answer should only include the last name of the " ++
    "office holder. If more than one person holds the office, provide a comma-separated list " ++
    "of last names in the order they were elected or appointed.\n\n\x7bprompt\x7d\n\n" ++
    "Remember to put your answer on its own line at the end with each last name separated by " ++
    "a comma."

/-- A search that the model may ask for. -/
def webSearch : Tool where
  name := "web_search"
  description := "Use the web_search tool to perform keyword searches of the web."
  parameters :=
    .object [
      ("properties", .object [
        ("query", .object [
          ("description", .text "Query to search."), ("type", .text "string")])]),
      ("required", .texts ["query"]), ("type", .text "object")]

/-- The questions with the names that answer them. -/
def officeSamples : List Sample := [
  { input := "Who is the current president of the United States?"
    target := ["Trump"] },
  { input := "Who are the current U.S. Senators from Virginia?"
    target := ["Warner", "Kaine"] },
  { input := "Who are the current U.S. House Representatives from Massachusetts?"
    target := ["Neal", "McGovern", "Lynch", "Keating", "Clark", "Moulton", "Pressley",
      "Trahan", "Auchincloss"] },
  { input := "Who are the current Justices of the U.S. Supreme Court?"
    target := ["Thomas", "Roberts", "Alito", "Sotomayor", "Kagan", "Gorsuch", "Kavanaugh",
      "Barrett", "Jackson"] },
  { input := "Who is the current Secretary of State of the United States?"
    target := ["Rubio"] },
  { input := "Who is the top federal prosecutor in Virginia's eastern district Trump " ++
        "appointed in September 2025 and who did they replace?"
    target := ["Siebert", "Halligan"]
    metadata := [("ignore_order", .bool true)] }]

/-- The questions about office holders. -/
def offices : Task where
  name := "us_government_knowledge"
  samples := officeSamples
  plan := [.equip [webSearch] (some .auto), .prompt officePrompt, .generate]
  scorer := .answerList

end Assay.Catalogue
