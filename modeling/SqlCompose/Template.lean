import SqlCompose.Doc

/-!
# Templates

A template is neutral text whose slots are filled by documents, from left to right. A slot without
an argument becomes `NULL`, and arguments left over are ignored. An argument may be missing its
content altogether, such as a list without values: then the whole template is laid out as nothing.
-/

namespace SqlCompose.Template

/-- The parts of a template with its slots filled; nothing if an argument that is used has no
content. -/
def fill : List Neutral.Mark → List (Option Doc) → Option (List Doc)
  | [], _ => some []
  | .literal c :: rest, args => (fill rest args).map (.text c.toString :: ·)
  | .slot :: rest, [] => (fill rest []).map (.text "NULL" :: ·)
  | .slot :: _, none :: _ => none
  | .slot :: rest, some d :: args => (fill rest args).map (d :: ·)

/-- A template with its slots filled. -/
def doc (template : String) (args : List (Option Doc)) : Doc :=
  match fill (Neutral.marks template.toList) args with
  | some parts => .seq parts
  | none => .empty

end SqlCompose.Template
