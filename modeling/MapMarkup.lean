import MapMarkup.Main
import MapMarkup.Proofs.GetMap.DocumentUrl
import MapMarkup.Proofs.Extent.Closed
import MapMarkup.Proofs.Extent.Decoded
import MapMarkup.Proofs.Document.Markup
import MapMarkup.Proofs.Publisher.Refusal
import MapMarkup.Proofs.Publisher.SelfLink
import MapMarkup.Proofs.Publisher.Advertised
import MapMarkup.Proofs.GetMap.Positions
import MapMarkup.Proofs.GetMap.Canonical
import MapMarkup.Proofs.Publisher.Answer
import MapMarkup.Proofs.Box.Axes
import MapMarkup.Proofs.Text.Case
import MapMarkup.Proofs.Publisher.Geographic
import MapMarkup.Proofs.GetMap.Accepted
import MapMarkup.Proofs.Publisher.Alternates
import MapMarkup.Proofs.Publisher.PreviewLink
import MapMarkup.Proofs.Publisher.Servers
import MapMarkup.Proofs.TiledCrs.Tiles
import MapMarkup.Proofs.TiledCrs.Nearest
import MapMarkup.Proofs.TiledCrs.Fitting
import MapMarkup.Proofs.Publisher.Zoom
import MapMarkup.Proofs.Crs
import MapMarkup.Proofs.Box.Faults
import MapMarkup.Proofs.Publisher.QueryOfUrl
import MapMarkup.Proofs.Publisher.CacheLayer
import MapMarkup.Proofs.Box.Union
import MapMarkup.Proofs.Catalog.Growth
import MapMarkup.Proofs.CatalogFile.Loading
import MapMarkup.Proofs.CatalogFile.GroupOrder
import MapMarkup.Proofs.Decimal.Sum
import MapMarkup.Proofs.Projection.Wrapping
import MapMarkup.Proofs.Projection.PointTransform
import MapMarkup.Proofs.Box.Lattice
import MapMarkup.Proofs.Publisher.DefaultBounds
import MapMarkup.Proofs.Xml.Processor
import MapMarkup.Proofs.ExceptionReport
import MapMarkup.Proofs.Html.Tags
import MapMarkup.Proofs.Html.Page
import MapMarkup.Proofs.Query.Names
