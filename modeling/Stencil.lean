import Stencil.Main
import Stencil.Engine.Session
import Stencil.Text.Xml
import Stencil.Proofs.Files.Resolution
import Stencil.Proofs.Template.Cutting
import Stencil.Proofs.Template.Grammar
import Stencil.Proofs.Template.Parsing
import Stencil.Proofs.Value.Dict
import Stencil.Proofs.Template.Merging
import Stencil.Proofs.Value.Shape
import Stencil.Proofs.Template.Opacity
import Stencil.Proofs.Engine.Transparency
import Stencil.Proofs.Files.Confinement
import Stencil.Proofs.Failure
import Stencil.Proofs.Formats.Tables
import Stencil.Proofs.Config.Layering
import Stencil.Proofs.CommandLine.Delivery
import Stencil.Proofs.Engine.Survival
import Stencil.Proofs.Template.Composition
import Stencil.Proofs.Files.Walking
import Stencil.Proofs.Config.Limits
import Stencil.Proofs.CommandLine.Prediction
import Stencil.Proofs.Engine.Noninterference
import Stencil.Proofs.Config.Escapes
import Stencil.Proofs.Context.Escapes
import Stencil.Proofs.Engine.Escapes
import Stencil.Proofs.Template.Positions
import Stencil.Proofs.Template.Nesting
import Stencil.Proofs.Template.Refusal
import Stencil.Proofs.Template.Depth
import Stencil.Proofs.Engine.Candidates
import Stencil.Proofs.Engine.Resolving
import Stencil.Proofs.Files.Suffixes
import Stencil.Proofs.Engine.Stability
import Stencil.Proofs.Config.Merging
import Stencil.Proofs.Config.Choosing
import Stencil.Proofs.Text.Entities
import Stencil.Proofs.Template.Mentions
import Stencil.Proofs.Value.Keys
import Stencil.Proofs.Formats.Documents
import Stencil.Proofs.Context.Layering
import Stencil.Proofs.Text.Quoting
import Stencil.Proofs.Text.Markup
import Stencil.Proofs.Template.Outlines
import Stencil.Proofs.Files.Normalizing
import Stencil.Proofs.Text.Console
import Stencil.Proofs.Text.Wrapping
import Stencil.Proofs.Template.Quotations
import Stencil.Proofs.CommandLine.Separation
