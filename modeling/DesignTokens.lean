import DesignTokens.Command
import DesignTokens.Main
import DesignTokens.Proofs.Calc.Language
import DesignTokens.Proofs.Calc.Units
import DesignTokens.Proofs.Calc.Prefixes
import DesignTokens.Proofs.Rendering.Agreement
import DesignTokens.Proofs.Rendering.Isolation
import DesignTokens.Proofs.Resolution.Composition
import DesignTokens.Proofs.Session.StrictNames
import DesignTokens.Proofs.Source.Acceptance
import DesignTokens.Proofs.Disk.Looking
import DesignTokens.Proofs.Source.Visibility
import DesignTokens.Proofs.Source.Layouts
import DesignTokens.Proofs.Rendering.FileNames
import DesignTokens.Proofs.Rendering.Merging
import DesignTokens.Proofs.Resolution.Warnings
import DesignTokens.Proofs.Rendering.Conflicts
import DesignTokens.Proofs.Color
import DesignTokens.Proofs.Command.Failures
import DesignTokens.Proofs.Command.Confinement
import DesignTokens.Proofs.Resolution.Aliases
import DesignTokens.Proofs.Resolution.Channels
import DesignTokens.Proofs.Resolution.Properties
import DesignTokens.Proofs.Resolution.Lengths
import DesignTokens.Proofs.Resolution.Completeness
import DesignTokens.Proofs.Resolution.Layers
import DesignTokens.Proofs.Resolution.Occurrences
import DesignTokens.Proofs.Resolution.ColorLiterals
import DesignTokens.Proofs.Calc.Blanks
import DesignTokens.Proofs.Calc.Diagnoses
import DesignTokens.Proofs.Resolution.VariableNames
import DesignTokens.Proofs.Rendering.CustomProperties
import DesignTokens.Proofs.Token.Shapes
import DesignTokens.Proofs.Rendering.ReadingBack
import DesignTokens.Proofs.Reports
import DesignTokens.Proofs.Rendering.Outputs
import DesignTokens.Proofs.Source.Discovery
