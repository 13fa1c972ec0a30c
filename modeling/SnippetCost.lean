import SnippetCost.Analysis.Snippet
import SnippetCost.CommandLine.Run
import SnippetCost.Main
import SnippetCost.Proofs.Analysis.Callable
import SnippetCost.Proofs.Analysis.Captured
import SnippetCost.Proofs.Analysis.Leftover
import SnippetCost.Proofs.Analysis.Matrix
import SnippetCost.Proofs.Analysis.Verbatim
import SnippetCost.Proofs.CommandLine.Console
import SnippetCost.Proofs.CommandLine.Ending
import SnippetCost.Proofs.CommandLine.Tables
import SnippetCost.Proofs.CommandLine.Tools
import SnippetCost.Proofs.Display.Reports
import SnippetCost.Proofs.Host.Offer
import SnippetCost.Proofs.Report.Bare
import SnippetCost.Proofs.Report.Borrowed
import SnippetCost.Proofs.Report.Table
import SnippetCost.Proofs.Result.Lossless
import SnippetCost.Proofs.Result.Numbered
import SnippetCost.Proofs.Result.Written
import SnippetCost.Proofs.Snippet.Agreement
import SnippetCost.Proofs.Analysis.Resolution
import SnippetCost.Proofs.Toolchain.Lookup
import SnippetCost.Proofs.Display.Proportion
