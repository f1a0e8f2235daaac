import MapMarkup.Document
import MapMarkup.Json

/-!
# Documents as JSON

The JSON value of a document. Members come in a fixed order. In links and inputs a member without a
value is left out; an extent without a label says so with null.
-/

namespace MapMarkup

def optionalMember (name : String) (value : Option Json) : List (String × Json) :=
  value.toList.map fun v => (name, v)

def Rel.jsonWord : Rel → String
  | image => "image"
  | tile => "tile"
  | query => "query"
  | selfStyle => "self-style"
  | alternate => "alternate"

def Link.members (l : Link) : List (String × Json) :=
  ("rel", .string l.rel.jsonWord) ::
    optionalMember "tref" (l.tref.map .string)
      ++ optionalMember "href" (l.href.map .string)
      ++ optionalMember "media_type" (l.mediaType.map .string)
      ++ optionalMember "projection" (l.projection.map fun t => .string t.name)

def Input.members (i : Input) : List (String × Json) :=
  ("name", .string i.name) :: ("input_type", .string i.type.word) ::
    optionalMember "units" (i.units.map fun u => .string u.word)
      ++ optionalMember "axis" (i.axis.map fun a => .string a.word)
      ++ optionalMember "position" (i.position.map fun c => .string c.word)
      ++ optionalMember "min" (i.min.map .number)
      ++ optionalMember "max" (i.max.map .number)
      ++ optionalMember "value" (i.value.map .string)
      ++ optionalMember "list" (i.list.map .string)
      ++ [("shard", .bool i.shard)]

def Datalist.members (d : Datalist) : List (String × Json) :=
  [("id", .string d.id),
    ("options", .array (d.options.map fun o => .array [.string o.1, .string o.2]))]

def Node.toJson : Node → Json
  | link l => .object (("node", .string "link") :: l.members)
  | input i => .object (("node", .string "input") :: i.members)
  | datalist d => .object (("node", .string "datalist") :: d.members)

def Extent.toJson (e : Extent) : Json :=
  .object
    [("units", .string e.units.name),
      ("label", (e.label.map Json.string).getD .null),
      ("checked", .bool e.checked),
      ("hidden", .bool e.hidden),
      ("nodes", .array (e.nodes.map Node.toJson))]

def Meta.toJson : Meta → Json
  | charset c => .object [("kind", .string "charset"), ("charset", .string c)]
  | httpEquiv field content =>
    .object
      [("kind", .string "http_equiv"), ("http_equiv", .string field),
        ("content", .string content)]
  | named name content =>
    .object [("kind", .string "named"), ("name", .string name), ("content", .string content)]

def Head.toJson (h : Head) : Json :=
  .object
    [("title", .string h.title),
      ("base", .string h.base),
      ("metas", .array (h.metas.map Meta.toJson)),
      ("links", .array (h.links.map fun l => .object l.members))]

def Document.toJson (d : Document) : Json :=
  .object
    [("head", d.head.toJson),
      ("body", .object [("extents", .array (d.extents.map Extent.toJson))])]

end MapMarkup
