import FireNet.Main
import FireNet.Operator.Plan
import FireNet.Proofs.Model.Build
import FireNet.Proofs.Model.Session
import FireNet.Proofs.Model.Wiring
import FireNet.Proofs.Operator.Replay
import FireNet.Proofs.Window.Room
import FireNet.Proofs.Operator.Sums
import FireNet.Proofs.Operator.Mixing
import FireNet.Proofs.Operator.Acceptance
import FireNet.Proofs.Operator.Chain
import FireNet.Proofs.Operator.Selection
import FireNet.Proofs.Operator.Rig
import FireNet.Proofs.Operator.Independence
import FireNet.Proofs.Operator.Refusal
import FireNet.Proofs.Weights.Loading
import FireNet.Proofs.Weights.Saving
import FireNet.Proofs.Weights.Manifest
import FireNet.Proofs.Weights.Placement
import FireNet.Proofs.Weights.Random
import FireNet.Proofs.Weights.Stores
import FireNet.Proofs.Host
import FireNet.Proofs.Tensor
import FireNet.Proofs.Kernel.Product
import FireNet.Proofs.Kernel.Resampling
import FireNet.Proofs.Frame.Normalizer
import FireNet.Proofs.Frame.Calls
import FireNet.Proofs.Classifier.Pipeline
import FireNet.Proofs.Classifier.Setup
import FireNet.Proofs.Classifier.History
import FireNet.Proofs.Classifier.Readiness
import FireNet.Proofs.Engine.Workshop
import FireNet.Proofs.Appliance.Alarm
import FireNet.Proofs.Appliance.Siren
import FireNet.Proofs.Appliance.Sensor
