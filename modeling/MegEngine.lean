import MegEngine.Imperative.Object
import MegEngine.Imperative.AxisList
import MegEngine.Imperative.DtypePromotion
import MegEngine.Imperative.ExpandSqueeze
import MegEngine.Imperative.Broadcast
import MegEngine.Imperative.Reshape
import MegEngine.Imperative.Split
import MegEngine.Imperative.ExpandBoolDim
import MegEngine.Imperative.UnpackIndexes
import MegEngine.Imperative.Subtensor
import MegEngine.Imperative.Device
import MegEngine.Imperative.ConvertInputs
import MegEngine.Cuda.DepthwiseLargeFilter
import MegEngine.Imperative.Transpose
