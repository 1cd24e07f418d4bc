import TrustManager.Field
import TrustManager.Bundle
import TrustManager.Webhook
import TrustManager.Admission
import TrustManager.Faults
import TrustManager.Lifecycle
import TrustManager.Schema
import TrustManager.Cluster
