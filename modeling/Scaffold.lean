import Scaffold.Text.Blank
import Scaffold.Text.CaseMatch
import Scaffold.Text.Category
import Scaffold.Text.Category.Table
import Scaffold.Text.CellWidth
import Scaffold.Text.Lines
import Scaffold.Text.Quoted
import Scaffold.Text.Utf8
import Scaffold.Json.Parser
import Scaffold.Json.Printer
import Scaffold.Scala.Lexer
import Scaffold.Scala.Tokens
import Scaffold.Scala.Verdict
import Scaffold.Scala.Declaration
import Scaffold.Files.Path
import Scaffold.Files.Resolve
import Scaffold.Files.Discover
import Scaffold.Template.Store
import Scaffold.Result.Schema
import Scaffold.Telemetry.Job
import Scaffold.Result.Render
import Scaffold.Toml.Parser
import Scaffold.Config.Settings
import Scaffold.Log.Record
import Scaffold.Plugin.Registry
import Scaffold.Plugin.Discover
import Scaffold.Symbols.Index
import Scaffold.Project.Session
import Scaffold.Files.Edit
import Scaffold.CommandLine.Run
import Scaffold.Main
import Scaffold.Console.Style
import Scaffold.Proofs.Scala.NameGrammar
import Scaffold.Proofs.Scala.Gap
import Scaffold.Proofs.Scala.TokenClass
import Scaffold.Proofs.Scala.Tiling
import Scaffold.Proofs.Files.Effect
import Scaffold.Proofs.Files.RealPath
import Scaffold.Proofs.Project.Creation
import Scaffold.Proofs.Scala.Joining
import Scaffold.Proofs.Files.ClearWay
import Scaffold.Proofs.Files.Obstacles
import Scaffold.Proofs.Template.Packaged
import Scaffold.Proofs.Project.PackagePrefix
import Scaffold.Proofs.Project.Acceptance
import Scaffold.Proofs.Project.Preparation
import Scaffold.Proofs.Project.Validated
import Scaffold.Proofs.Project.Judgement
import Scaffold.Proofs.Telemetry.Report
import Scaffold.Proofs.Project.Recreation
import Scaffold.Proofs.Template.Declared
import Scaffold.Proofs.Template.Spelling
import Scaffold.Proofs.Project.Transparency
import Scaffold.Proofs.Result.RoundTrip
import Scaffold.Proofs.Scala.TokenGrammar
import Scaffold.Proofs.Scala.FaultPlace
import Scaffold.Proofs.Scala.Printing
import Scaffold.Proofs.Scala.CommentMark
import Scaffold.Proofs.Project.Interruption
import Scaffold.Proofs.Scala.SourceLine
import Scaffold.Proofs.Project.Taken
import Scaffold.Proofs.Project.Separator
import Scaffold.Proofs.Project.Respelling
import Scaffold.Proofs.Symbols.History
import Scaffold.Proofs.Project.Inquiry
import Scaffold.Proofs.Project.Switching
import Scaffold.Proofs.Files.Orderly
import Scaffold.Proofs.Files.Listing
import Scaffold.Proofs.Files.PlainWay
import Scaffold.Proofs.Project.Completion
import Scaffold.Proofs.Scala.TokenLine
import Scaffold.Proofs.Scala.LinePlace
import Scaffold.Proofs.Scala.DeclarationHead
import Scaffold.Proofs.Scala.NameToken
import Scaffold.Proofs.Scala.DeclaredToken
import Scaffold.Proofs.Plugin.Notice
import Scaffold.Proofs.Project.Announcement
import Scaffold.Proofs.Plugin.Discovery
import Scaffold.Proofs.Project.TemplateKinds
import Scaffold.Proofs.Console.Literal
import Scaffold.Proofs.Project.RejectedShown
import Scaffold.Proofs.Scala.Parts
import Scaffold.Proofs.Config.Merging
import Scaffold.Proofs.CommandLine.Flags
import Scaffold.Proofs.Config.Location
import Scaffold.Proofs.Template.Bindings
import Scaffold.Proofs.Files.SourceRoots
import Scaffold.Proofs.Scala.BlockComment
