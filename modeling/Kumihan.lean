import Kumihan.Main
import Kumihan.Proofs.Contents.Declared
import Kumihan.Proofs.Contents.Pairing
import Kumihan.Proofs.Lint.Agreement
import Kumihan.Proofs.Placement.Files
import Kumihan.Proofs.Placement.LinkTargets
import Kumihan.Proofs.Compositor.Marks
import Kumihan.Proofs.Lint.Promise
import Kumihan.Proofs.Lint.Fixing
import Kumihan.Proofs.Epub.Assembly
import Kumihan.Proofs.Files.Disk
import Kumihan.Proofs.Epub.Publication
import Kumihan.Proofs.Epub.Coherence
import Kumihan.Proofs.Epub.Overwriting
import Kumihan.Proofs.Epub.Pages
import Kumihan.Proofs.Contents.LineEndings
import Kumihan.Proofs.Markup.Glyphs
import Kumihan.Proofs.Epub.Pictures
import Kumihan.Proofs.Markup.Grammar
import Kumihan.Proofs.Compositor.Anchors
import Kumihan.Proofs.Compositor.Continuing
import Kumihan.Proofs.Compositor.Modes
import Kumihan.Proofs.Markup.References
import Kumihan.Proofs.Contents.Gaps
import Kumihan.Proofs.Contents.Listing
import Kumihan.Proofs.Lint.ChapterCount
import Kumihan.Proofs.Lint.Counts
import Kumihan.Proofs.Lint.Pictures
import Kumihan.Proofs.Lint.Punctuation
import Kumihan.Proofs.Compositor.Discarded
import Kumihan.Proofs.Epub.Sources
import Kumihan.Proofs.Pages.Fields
import Kumihan.Proofs.Epub.Landmarks
import Kumihan.Proofs.Epub.History
import Kumihan.Proofs.Plan.Loading
