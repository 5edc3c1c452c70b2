import QueryGateway.Http.Header
import QueryGateway.Number.Reading

/-!
# Which codings a client accepts

The value of `Accept-Encoding` is a list of items separated by commas, an item is the name of a
coding and parameters separated by semicolons, and the parameter `q` is the quality of the coding. A
client accepts gzip if one item names it with a quality above zero.

A quality that is no number counts as one, and of several qualities of an item the last one counts.
-/

namespace QueryGateway.Http.AcceptEncoding

def full : Binary64 := .ofDecimal false 1 0

def quality? (param : Text) : Option Binary64 :=
  let (key, value) := Text.cut '=' (Text.trim param)
  if (Text.trim key).lower = "q" then
    some ((Number.real? (Text.trim (value.getD []))).getD full)
  else none

/-- The quality of an item with the given parameters: the last one given. -/
def quality (params : List Text) : Binary64 := ((params.filterMap quality?).getLast?).getD full

def coding (item : Text) : Text × Binary64 :=
  let (name, params) := Text.cut ';' item
  ((Text.trim name).lower, quality (Text.pieces ';' (params.getD [])))

def itemAccepts (item : Text) : Bool :=
  let (name, q) := coding item
  name = "gzip" && q.isPositive

def valueAccepts (value : Text) : Bool := (Text.pieces ',' (Text.trim value)).any itemAccepts

def acceptsGzip (headers : Headers) : Bool :=
  match headers.get? acceptEncoding with
  | none => false
  | some value => valueAccepts value

end QueryGateway.Http.AcceptEncoding
