import Relabel.Main
import Relabel.Proofs.Labeling.Settling
import Relabel.Proofs.Labeling.Interface
import Relabel.Proofs.Labeling.Undo
import Relabel.Proofs.Labeling.Reuse
import Relabel.Proofs.Labeling.Parameter
import Relabel.Proofs.Labeling.Structural
import Relabel.Proofs.Scope.Visibility
import Relabel.Proofs.Naming.Bindable
import Relabel.Proofs.Idiom.Innermost
import Relabel.Proofs.Idiom.Global
import Relabel.Proofs.Labeling.Plain
import Relabel.Proofs.Settings.Registry
import Relabel.Proofs.Command.Directory
