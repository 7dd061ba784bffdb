import OrgOutline.Export
import OrgOutline.File
import OrgOutline.Proofs.ClockSums
import OrgOutline.Proofs.Collapsed
import OrgOutline.Proofs.Composition
import OrgOutline.Proofs.Diagnostics
import OrgOutline.Proofs.DrawerLines
import OrgOutline.Proofs.EmptyTags
import OrgOutline.Proofs.FileText
import OrgOutline.Proofs.Filled
import OrgOutline.Proofs.Flush
import OrgOutline.Proofs.Form
import OrgOutline.Proofs.Lenient
import OrgOutline.Proofs.ListReading
import OrgOutline.Proofs.Numbering
import OrgOutline.Proofs.Outline
import OrgOutline.Proofs.Preamble
import OrgOutline.Proofs.Saving
import OrgOutline.Proofs.StampTexts
import OrgOutline.Proofs.Strict
import OrgOutline.Proofs.TableReading
import OrgOutline.Proofs.TimestampReading
import OrgOutline.Proofs.Visible
import OrgOutline.Record.Same
