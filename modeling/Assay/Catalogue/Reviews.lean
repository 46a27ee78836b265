import Assay.Task

/-!
# Reviews of movies

The model is asked for a positive review of a movie, and the grader whether it is one.
-/
namespace Assay.Catalogue

/-- A movie to review. -/
structure Movie where
  id : String
  title : String
  year : String
  director : String
  genre : String
  category : String

/-- How a movie is put to the model. -/
def reviewPrompt : String :=
  "You are a movie reviewer for a major globally read publication. Give a positive review " ++
    "of the follow movie:\n\n\x7bprompt\x7d"

/-- How a review is put to the grader. -/
def reviewCriterion : String :=
  "\nYou are assessing a submitted answer on a given task based on a criterion. Here is " ++
    "the data:\n\n[BEGIN DATA]\n***\n[Task]: \x7bquestion\x7d\n***\n[Submission]: " ++
    "\x7banswer\x7d\n***\n[Criterion]: The answer should be a positive review praising the " ++
    "movie. It should convince somone to watch the movie.\n***\n[END DATA]\n\nDoes the " ++
    "submission meet the criterion?\n\n\x7binstructions\x7d\n"

/-- The movies. -/
def movies : List Movie := [
  ⟨"1", "The Shawshank Redemption", "1994", "Frank Darabont", "Drama", "classic"⟩,
  ⟨"2", "Spirited Away", "2001", "Hayao Miyazaki", "Animation", "international"⟩,
  ⟨"3", "Heat", "1995", "Michael Mann", "Crime", "classic"⟩,
  ⟨"4", "Arrival", "2016", "Denis Villeneuve", "Science Fiction", "modern"⟩,
  ⟨"5", "Paddington 2", "2017", "Paul King", "Family", "modern"⟩]

/-- The sample for a movie. There are no reference answers. -/
def Movie.toSample (movie : Movie) : Sample where
  id := some movie.id
  input := "'" ++ movie.title ++ "' from " ++ movie.year ++ " directed by " ++ movie.director
  target := []
  metadata := [("category", .text movie.category), ("genre", .text movie.genre)]

/-- The reviews of movies. -/
def reviews : Task where
  name := "movie_reviews"
  samples := movies.map Movie.toSample
  plan := [.prompt reviewPrompt, .generate]
  scorer := .graded reviewCriterion Scorer.defaultInstructions

end Assay.Catalogue
