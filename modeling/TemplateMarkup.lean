import TemplateMarkup.Text.Hyphen
import TemplateMarkup.Json
import TemplateMarkup.Dialect
import TemplateMarkup.Markup.Reading
import TemplateMarkup.Interpolation.Fragment
import TemplateMarkup.AttributeName.Basic
import TemplateMarkup.Template.Parse
import TemplateMarkup.Template.Outline
import TemplateMarkup.Template.Encoding
import TemplateMarkup.Component.Basic
import TemplateMarkup.Component.Filler
import TemplateMarkup.Component.OpeningTag
import TemplateMarkup.Component.Content
import TemplateMarkup.Component.Reading
import TemplateMarkup.Component.Attempt
import TemplateMarkup.Component.Parse
import TemplateMarkup.Component.Encoding
import TemplateMarkup.Command.Error
import TemplateMarkup.Command.Parse
import TemplateMarkup.Command.Arguments
import TemplateMarkup.Command.Invocation
import TemplateMarkup.Main
import TemplateMarkup.Settings
import TemplateMarkup.Proofs.Nesting
import TemplateMarkup.Proofs.ImplicitEnds
import TemplateMarkup.Proofs.Terminators
import TemplateMarkup.Proofs.Remainder
import TemplateMarkup.Proofs.DirectConstruct
import TemplateMarkup.Proofs.PlainReading
import TemplateMarkup.Proofs.Building
import TemplateMarkup.Proofs.Links
import TemplateMarkup.Proofs.Arena
import TemplateMarkup.Proofs.ElementWarnings
import TemplateMarkup.Proofs.ElseBranches
import TemplateMarkup.Proofs.Ancestors
import TemplateMarkup.Proofs.Descendants
import TemplateMarkup.Proofs.Spans
import TemplateMarkup.Proofs.Content
import TemplateMarkup.Proofs.Frame
import TemplateMarkup.Proofs.Alike
import TemplateMarkup.Proofs.TextOfSource
import TemplateMarkup.Proofs.Whitespace
import TemplateMarkup.Proofs.RawRegions
import TemplateMarkup.Proofs.Places
import TemplateMarkup.Proofs.DirectReading
import TemplateMarkup.Proofs.ForbiddenTags
import TemplateMarkup.Proofs.Printing
import TemplateMarkup.Proofs.ComponentLayout
import TemplateMarkup.Proofs.OpeningTags
import TemplateMarkup.Proofs.BlockContents
import TemplateMarkup.Proofs.ComponentFiles
import TemplateMarkup.Proofs.Fragments
import TemplateMarkup.Proofs.Entries
import TemplateMarkup.Proofs.RawBodies
import TemplateMarkup.Proofs.TopLevel
import TemplateMarkup.Proofs.Splitting
import TemplateMarkup.Proofs.QuotedText
import TemplateMarkup.Proofs.Lookups
import TemplateMarkup.Proofs.Shorthands
import TemplateMarkup.Proofs.UnclosedTemplates
import TemplateMarkup.Proofs.RawEnds
import TemplateMarkup.Proofs.Claiming
import TemplateMarkup.Proofs.ClosingBrackets
import TemplateMarkup.Proofs.Tables
import TemplateMarkup.Proofs.Trimming
import TemplateMarkup.Proofs.Pipes
import TemplateMarkup.Proofs.PipedLiterals
import TemplateMarkup.Proofs.StringLiterals
import TemplateMarkup.Proofs.LoopHeaders
import TemplateMarkup.Proofs.HeaderLines
import TemplateMarkup.Proofs.PrintedNames
import TemplateMarkup.Proofs.SpelledTags
import TemplateMarkup.Proofs.LeftOpen
import TemplateMarkup.Proofs.SurroundingBlanks
import TemplateMarkup.Proofs.Namespaces
import TemplateMarkup.Proofs.ShownNodes
import TemplateMarkup.Proofs.Outlines
import TemplateMarkup.Proofs.WrittenNames
import TemplateMarkup.Proofs.OutlineLines
import TemplateMarkup.Proofs.VerbatimText
import TemplateMarkup.Proofs.ByteOffsets
import TemplateMarkup.Proofs.CachedSearches
import TemplateMarkup.Proofs.ByteScanning
import TemplateMarkup.Proofs.ByteConstructs
import TemplateMarkup.Proofs.ByteText
import TemplateMarkup.Proofs.ByteReading
import TemplateMarkup.Proofs.HyphenatedNames
