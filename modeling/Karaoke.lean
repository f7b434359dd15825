import Karaoke.Proofs.Animation
import Karaoke.Proofs.Browser.Chance
import Karaoke.Proofs.Browser.Fetches
import Karaoke.Proofs.Browser.Isolation
import Karaoke.Proofs.Browser.Pressed
import Karaoke.Proofs.Browser.Replies
import Karaoke.Proofs.Browser.Window
import Karaoke.Proofs.Catalog.Formats
import Karaoke.Proofs.Catalog.Names
import Karaoke.Proofs.Fuzzy.Continued
import Karaoke.Proofs.Fuzzy.Greedy
import Karaoke.Proofs.Fuzzy.Subsequence
import Karaoke.Proofs.Playlists.History
import Karaoke.Proofs.Query.Overriding
import Karaoke.Proofs.Query.Retyped
import Karaoke.Proofs.Ranking.Drawn
import Karaoke.Proofs.Ranking.Hits
import Karaoke.Proofs.Ranking.Rearranged
import Karaoke.Proofs.Ranking.Recased
import Karaoke.Proofs.Session.Answers
import Karaoke.Proofs.Session.Edits
import Karaoke.Proofs.Session.Settling
import Karaoke.Proofs.Traffic.Fresh
import Karaoke.Proofs.Traffic.Settled
import Karaoke.Proofs.Traffic.Single
import Karaoke.Song.Cover
