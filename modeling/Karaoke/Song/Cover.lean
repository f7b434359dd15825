import Karaoke.Song
import Karaoke.Song.Digest
import Karaoke.Catalog.Address

/-!
# Cover images

A song with a cover of its own has its image at an address made from its hash. Any other song is
given one of the default covers, always the same, chosen by the digest of its hash.
-/

set_option autoImplicit false

namespace Karaoke.Song

def defaultCover? (s : Song) (covers : List String) : Option String :=
  covers[Digest.number s.hash % covers.length]?

def coverAddress? (s : Song) (covers : List String) : Option String :=
  if s.cover.isSome then some (Catalog.coverTemplate.fill (fun _ => s.hash))
  else s.defaultCover? covers

end Karaoke.Song
