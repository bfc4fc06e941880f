import SelectionSql.Executor
import SelectionSql.Resolution.Request

/-!
# A small blog

Posts, and the comments that point at them: the schema in which the theorems about resolutions are
tried out.

* `Blog.schema`: posts with their ids and their comments, comments with their ids and texts.
* `Blog.request`: all posts with their comments, for any arguments that the comments carry.
* `Blog.classified_request`: what its fields are, whatever the arguments and the options.
-/
set_option autoImplicit false

namespace SelectionSql
namespace Resolution
namespace Blog
open Selection (Node Related Classified)

def schema : Schema where
  types := .ofList
    [("Query", ⟨"Query", .ofList [("posts", ⟨"posts", ⟨"Post", true, true⟩, .none⟩)]⟩),
      ("Post", ⟨"Post", .ofList
        [("id", ⟨"id", ⟨"ID", false, false⟩, .none⟩),
          ("comments", ⟨"comments", ⟨"Comment", true, true⟩, .toMany⟩)]⟩),
      ("Comment", ⟨"Comment", .ofList
        [("id", ⟨"id", ⟨"ID", false, false⟩, .none⟩),
          ("body", ⟨"body", ⟨"String", false, true⟩, .none⟩)]⟩)]
  queryType := "Query"

def comments (arguments : OrderedMap ArgumentValue) : Node :=
  ⟨"comments", arguments, [.ofName "id", .ofName "body"]⟩

def posts (arguments commentArguments : OrderedMap ArgumentValue) : Node :=
  ⟨"posts", arguments, [.ofName "id", comments commentArguments]⟩

def request (commentArguments : OrderedMap ArgumentValue) : Request :=
  { node := posts .empty commentArguments, typeName := "Post", table := "posts",
    entityTable := "posts", pivotTarget := none, modifiers := .empty, cardinality := .many }

def related (commentArguments : OrderedMap ArgumentValue) :
    Related (request commentArguments).node :=
  ⟨comments commentArguments, ⟨"comments", ⟨"Comment", true, true⟩, .toMany⟩,
    List.mem_cons_of_mem _ List.mem_cons_self⟩

def selected (commentArguments : OrderedMap ArgumentValue) :
    Classified (request commentArguments).node :=
  ⟨[.scalar "id", .toMany (related commentArguments)]⟩

/-- The posts are told apart by their ids and have one relation. -/
theorem classified_request (options : Options) (commentArguments : OrderedMap ArgumentValue) :
    classified schema options (request commentArguments) = .ok (selected commentArguments) := rfl

def row (id : Int64) : Row := .ofList [("id", .int id), ("body", .string "text")]

/-- Answers every statement with the same rows. -/
def executor (rows : List Row) : Executor Unit :=
  .ofAnswers .sqlite (fun _ => .ok rows) fun _ => .ok ⟨0, none⟩

end Blog
end Resolution
end SelectionSql
