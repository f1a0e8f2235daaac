import MapMarkup.Document
import MapMarkup.Decimal.Layout
import MapMarkup.Xml

/-!
# Documents as markup

The element tree of a document and its text. Attributes come in a fixed order, and one that has no
value is left out.
-/

namespace MapMarkup

open Xml

def optional (name : String) (value : Option String) : List Attribute :=
  value.toList.map fun v => (name, v)

def flag (name value : String) (set : Bool) : List Attribute :=
  if set then [(name, value)] else []

def Rel.markupWord : Rel → String
  | image => "image"
  | tile => "tile"
  | query => "query"
  | selfStyle => "self style"
  | alternate => "alternate"

def Link.element (l : Link) : Element :=
  .leaf "map-link"
    (("rel", l.rel.markupWord) ::
      optional "type" l.mediaType
        ++ optional "projection" (l.projection.map Tcrs.name)
        ++ optional "tref" l.tref
        ++ optional "href" l.href)

def Input.element (i : Input) : Element :=
  .leaf "map-input"
    (("name", i.name) :: ("type", i.type.word) ::
      optional "units" (i.units.map Units.word)
        ++ optional "axis" (i.axis.map Axis.word)
        ++ optional "position" (i.position.map Corner.word)
        ++ optional "list" i.list
        ++ flag "shard" "true" i.shard
        ++ optional "min" (i.min.map Decimal.text)
        ++ optional "max" (i.max.map Decimal.text)
        ++ optional "value" i.value)

def Datalist.element (d : Datalist) : Element :=
  .block "map-datalist" [("id", d.id)]
    (d.options.map fun o => .text "map-option" [("value", o.2)] o.1)

def Node.element : Node → Element
  | link l => l.element
  | input i => i.element
  | datalist d => d.element

def Extent.element (e : Extent) : Element :=
  .block "map-extent"
    (("units", e.units.name) ::
      optional "label" e.label
        ++ flag "checked" "checked" e.checked
        ++ flag "hidden" "hidden" e.hidden)
    (e.nodes.map Node.element)

def Meta.element : Meta → Element
  | charset c => .leaf "map-meta" [("charset", c)]
  | httpEquiv field content => .leaf "map-meta" [("http-equiv", field), ("content", content)]
  | named name content => .leaf "map-meta" [("name", name), ("content", content)]

def Head.element (h : Head) : Element :=
  .block "map-head" []
    (.text "map-title" [] h.title :: .leaf "map-base" [("href", h.base)] ::
      (h.metas.map Meta.element ++ h.links.map Link.element))

def documentNamespace : String := "http://www.w3.org/1999/xhtml"

def Document.element (d : Document) : Element :=
  .block "mapml-" [("xmlns", documentNamespace)]
    [d.head.element, .block "map-body" [] (d.extents.map Extent.element)]

def Document.markup (d : Document) : String :=
  Xml.textOf d.element

end MapMarkup
