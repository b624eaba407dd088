import Manuscript.Main
import Manuscript.Page.Codec
import Manuscript.Proofs.Page.Content
import Manuscript.Proofs.Page.Skeleton
import Manuscript.Proofs.Page.Parts
import Manuscript.Proofs.Tag.Repeat
import Manuscript.Proofs.Tag.Split
import Manuscript.Proofs.Text.Number
import Manuscript.Proofs.Calendar
import Manuscript.Proofs.Compile.SceneDate
import Manuscript.Proofs.Compile.Settled
import Manuscript.Proofs.Page.Titles
import Manuscript.Proofs.Page.SceneInfo
import Manuscript.Proofs.Disk
import Manuscript.Proofs.Project.Build
import Manuscript.Proofs.Project.Output
import Manuscript.Proofs.Project.Manifest
import Manuscript.Proofs.Project.Story
import Manuscript.Proofs.Story.ReadBack
import Manuscript.Proofs.Compile.Antecedent
import Manuscript.Proofs.Page.Comments
import Manuscript.Proofs.Page.Paragraphs
import Manuscript.Proofs.Text.Split
import Manuscript.Proofs.Compile.Instructions
import Manuscript.Proofs.Action.Markup
import Manuscript.Proofs.Action.Bracket
import Manuscript.Proofs.Report.Contents
import Manuscript.Proofs.Report.Growth
import Manuscript.Proofs.Page.SceneLists
import Manuscript.Proofs.Tag.Precedence
import Manuscript.Proofs.Page.Outline
import Manuscript.Proofs.Project.FrontMatter
import Manuscript.Proofs.Project.Names
