import PageMark.Collapse.Walk
import PageMark.Conversion.Session
import PageMark.Main
import PageMark.Proofs.WalkFrame
import PageMark.Proofs.WalkRefines
import PageMark.Proofs.Failures
import PageMark.Proofs.Stretches
import PageMark.Proofs.WordsKept
import PageMark.Proofs.Turns
import PageMark.Proofs.TextKept
import PageMark.Proofs.Insertion
import PageMark.Proofs.BlockMargins
import PageMark.Proofs.BodyOnly
import PageMark.Proofs.EagerChecks
import PageMark.Proofs.CodeBlocks
import PageMark.Proofs.Concatenation
import PageMark.Proofs.TableRows
import PageMark.Proofs.EscapedPages
import PageMark.Proofs.MarkdownLines
import PageMark.Proofs.WrittenOnce
import PageMark.Proofs.CommandRuns
import PageMark.Proofs.EdgeLines
import PageMark.Proofs.BlockByBlock
import PageMark.Proofs.CollapsedAgain
import PageMark.Proofs.Padding
import PageMark.Proofs.TableLayout
import PageMark.Proofs.Outlines
import PageMark.Proofs.Emphasis
import PageMark.Proofs.Quotations
import PageMark.Proofs.ItemNumbers
import PageMark.Proofs.Headings
import PageMark.Proofs.Splicing
import PageMark.Proofs.Slugs
import PageMark.Proofs.BreadthFirst
