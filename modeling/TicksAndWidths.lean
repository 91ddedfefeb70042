import TicksAndWidths.Main
import TicksAndWidths.Files.Tree
import TicksAndWidths.Font.Draft
import TicksAndWidths.Json.Reader
import TicksAndWidths.Proofs.Draft.Answers
import TicksAndWidths.Proofs.Font.Repeats
import TicksAndWidths.Proofs.Font.Preference
import TicksAndWidths.Proofs.Table.Indices
import TicksAndWidths.Proofs.Table.Rows
import TicksAndWidths.Proofs.Table.Order
import TicksAndWidths.Proofs.Json.Numbers
import TicksAndWidths.Proofs.Table.Lengths
import TicksAndWidths.Proofs.Table.Arrangement
import TicksAndWidths.Proofs.Text.Numerals
import TicksAndWidths.Proofs.Table.Tuples
import TicksAndWidths.Proofs.Json.Strings
import TicksAndWidths.Proofs.Json.Values
import TicksAndWidths.Proofs.Table.Objects
import TicksAndWidths.Proofs.Table.Returns
import TicksAndWidths.Proofs.Table.Rejoining
import TicksAndWidths.Proofs.Table.Newlines
import TicksAndWidths.Proofs.Table.Stated
import TicksAndWidths.Proofs.Table.Arrows
import TicksAndWidths.Proofs.Text.Quotation
import TicksAndWidths.Proofs.Table.Faults
import TicksAndWidths.Proofs.Table.Warnings
import TicksAndWidths.Proofs.Font.Histories
import TicksAndWidths.Proofs.Draft.Numbers
import TicksAndWidths.Proofs.Draft.Tiling
