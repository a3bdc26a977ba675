import Microkube.GoStrings
import Microkube.LogLineExtract
import Microkube.KubeLogParser
import Microkube.ClusterIPRange
import Microkube.KubeletHandler
import Microkube.CniPlugins
import Microkube.CheckService
import Microkube.Orchestrator
import Microkube.OrchestratorShape
import Microkube.OrchestratorStartup
import Microkube.OrchestratorShutdown
import Microkube.OrchestratorMonitor
