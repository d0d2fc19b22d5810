import DockerClient.Error.Basic
import DockerClient.Table
import DockerClient.Text.Ascii

/-
**HTTP headers.**

* `Header` — a name and a value as a caller writes them;
* `Header.isName`, `Header.isValue` — what names and values may hold;
* `HeaderMap.ofList` — one value for every name, in any case of its letters; the last counts;
* `HeaderMap.collect` — the same, after room was made for all headers, of which there can be too many;
* `RequestHeaders` — the headers of a request, any number of values for a name;
* `RequestHeaders.set` — one value in place of all others of a name;
* `HeaderMap.stamp` — the headers of a request under those of the client.
-/

set_option relaxedAutoImplicit false
set_option autoImplicit false

namespace DockerClient

/-- A name and a value as a caller writes them. -/
abbrev Header := String × String

namespace Header

/-- The characters of a header name besides letters and digits. -/
def nameMarks : List Char :=
  ['!', '#', '$', '%', '&', '\x27', '*', '+', '-', '.', '^', '_', '\x60', '|', '~']

/-- A character of a header name. -/
def isNameChar (c : Char) : Bool := c.isAlphanum || nameMarks.contains c

/-- The longest header name. -/
def maxName : Nat := 65535

/-- A header name: not empty, not too long, and of the right characters. -/
def isName (name : String) : Bool :=
  name != "" && decide (name.utf8ByteSize ≤ maxName) && name.toList.all isNameChar

/-- A header value holds no control character but the tab. -/
def isValue (value : String) : Bool :=
  value.toList.all fun c => (decide (32 ≤ c.toNat) && c.toNat != 127) || c == '\t'

/-- The user agent that the library identifies itself with. -/
def userAgentName : String := "User-Agent"

end Header

/-- One value for every name, the names in lower case. -/
abbrev HeaderMap := Table String

namespace HeaderMap

/-- Adds a header to a map, in place of one with the same name. -/
def add (map : HeaderMap) (header : Header) : Except Error HeaderMap :=
  if !Header.isName header.1 then .error (.invalidArgument (.headerName header.1))
  else if !Header.isValue header.2 then .error (.invalidArgument (.headerValue header.1))
  else .ok (map.insert (Text.lower header.1) header.2)

/-- Adds the headers of a list to a map that has room for them: the map, or the fault of the first
that is invalid. -/
def ofList (headers : List Header) : Except Error HeaderMap :=
  headers.foldlM add Table.empty

/-- How many headers there can be room for: three quarters of the largest hash table. -/
def room : Nat := 24576

/-- The panic of a map in which there can not be room. -/
def overflow : String := "size overflows MAX_SIZE: MaxSizeReached"

/-- The map of a list of headers.  Room is made first, for every header of the list, whether or not
it is valid and whether or not its name occurs again; that panics if there are too many. -/
def collect (headers : List Header) : Except String (Except Error HeaderMap) :=
  if room < headers.length then .error overflow else .ok (ofList headers)

end HeaderMap

/-- The headers of a request: for every name, which is in lower case, its values. -/
structure RequestHeaders where
  table : Table (List String)
  lower : ∀ e ∈ table.entries, Text.lower e.1 = e.1

namespace RequestHeaders

/-- No headers. -/
def empty : RequestHeaders := ⟨Table.empty, nofun⟩

/-- One value for a name, in place of all that it had. -/
def set (r : RequestHeaders) (name value : String) : RequestHeaders where
  table := r.table.insert (Text.lower name) [value]
  lower e he := by
    rcases Table.mem_place he with rfl | he
    · exact Text.lower_lower name
    · exact r.lower e he

/-- The headers as they are sent, a name once for each of its values. -/
def entries (r : RequestHeaders) : List Header :=
  r.table.entries.flatMap fun e => e.2.map fun value => (e.1, value)

/-- The headers of a list over those of a request, one after the other. -/
def setAll (r : RequestHeaders) (headers : List Header) : RequestHeaders :=
  headers.foldl (fun r h => r.set h.1 h.2) r

end RequestHeaders

/-- The headers of a request with those of the client over them. -/
def HeaderMap.stamp (client : HeaderMap) (request : RequestHeaders) : RequestHeaders :=
  request.setAll client.entries

end DockerClient
